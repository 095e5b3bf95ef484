/-
# `json.loads` of bytes, and what it returns

`json.loads` guesses the encoding of bytes from the byte order mark or from where the zeros are, and
decodes them with `surrogatepass`, which lets a surrogate through where the encoding has none.

What it returns has integers short enough to print (`loads_hasShortInts`), so `json.dumps` writes
it, and in ASCII; reading that back gives the value with its surrogate pairs joined
(`loadsBytes_dumpsAscii`).  Joining keeps whatever a plain key names (`lookup_rejoin`).
-/
import Axg.Python.JsonAscii

namespace Axg.Python

/-! ## 1. Decoders -/

def point (n : Nat) : CodePoint := Fin.ofNat 0x110000 n

/-- The bits of a continuation byte. -/
def tailBits (b : UInt8) : Option Nat :=
  if 0x80 ≤ b.toNat ∧ b.toNat < 0xC0 then some (b.toNat - 0x80) else none

/-- `bytes.decode("utf-8")`, with `surrogatepass` if surrogates may pass. -/
def decodeUtf8With (pass : Bool) : Bytes → Option Str
  | [] => some []
  | a :: rest =>
    if a.toNat < 0x80 then (decodeUtf8With pass rest).map (point a.toNat :: ·)
    else
      match rest with
      | [] => none
      | b :: rest =>
        match tailBits b with
        | none => none
        | some y =>
          if 0xC2 ≤ a.toNat ∧ a.toNat < 0xE0 then
            (decodeUtf8With pass rest).map (point ((a.toNat - 0xC0) * 0x40 + y) :: ·)
          else
            match rest with
            | [] => none
            | c :: rest =>
              match tailBits c with
              | none => none
              | some z =>
                if 0xE0 ≤ a.toNat ∧ a.toNat < 0xF0 then
                  let n := (a.toNat - 0xE0) * 0x1000 + y * 0x40 + z
                  if n < 0x800 ∨ pass = false ∧ isSurrogate (point n) = true then none
                  else (decodeUtf8With pass rest).map (point n :: ·)
                else
                  match rest with
                  | [] => none
                  | d :: rest =>
                    match tailBits d with
                    | none => none
                    | some w =>
                      let n := (a.toNat - 0xF0) * 0x40000 + y * 0x1000 + z * 0x40 + w
                      if 0xF0 ≤ a.toNat ∧ a.toNat < 0xF5 ∧ 0x10000 ≤ n ∧ n < 0x110000 then
                        (decodeUtf8With pass rest).map (point n :: ·)
                      else none

/-- The code units of UTF-16. -/
def codeUnits (big : Bool) : Bytes → Option (List Nat)
  | [] => some []
  | [_] => none
  | a :: b :: rest =>
    (codeUnits big rest).map
      ((if big then a.toNat * 0x100 + b.toNat else b.toNat * 0x100 + a.toNat) :: ·)

/-- UTF-16 with `surrogatepass`. -/
def decodeUtf16 (big : Bool) (bytes : Bytes) : Option Str :=
  (codeUnits big bytes).map (fun units => joinSurrogates (units.map point))

/-- UTF-32 with `surrogatepass`. -/
def decodeUtf32 (big : Bool) : Bytes → Option Str
  | [] => some []
  | a :: b :: c :: d :: rest =>
    let n := if big then ((a.toNat * 0x100 + b.toNat) * 0x100 + c.toNat) * 0x100 + d.toNat
      else ((d.toNat * 0x100 + c.toNat) * 0x100 + b.toNat) * 0x100 + a.toNat
    if n < 0x110000 then (decodeUtf32 big rest).map (point n :: ·) else none
  | _ => none

/-- An encoding, with the length of its byte order mark. -/
inductive Encoding
  | utf8 (mark : Nat)
  | utf16 (big : Bool) (mark : Nat)
  | utf32 (big : Bool) (mark : Nat)

/-- `detect_encoding` -/
def detectEncoding (bytes : Bytes) : Encoding :=
  if [0x00, 0x00, 0xFE, 0xFF].isPrefixOf bytes then .utf32 true 4
  else if [0xFF, 0xFE, 0x00, 0x00].isPrefixOf bytes then .utf32 false 4
  else if [0xFE, 0xFF].isPrefixOf bytes then .utf16 true 2
  else if [0xFF, 0xFE].isPrefixOf bytes then .utf16 false 2
  else if [0xEF, 0xBB, 0xBF].isPrefixOf bytes then .utf8 3
  else
    match bytes with
    | a :: b :: c :: d :: _ =>
      if a = 0 then (if b = 0 then .utf32 true 0 else .utf16 true 0)
      else if b = 0 then (if c = 0 ∧ d = 0 then .utf32 false 0 else .utf16 false 0)
      else .utf8 0
    | [a, b] => if a = 0 then .utf16 true 0 else if b = 0 then .utf16 false 0 else .utf8 0
    | _ => .utf8 0

/-- `bytes.decode(encoding, "surrogatepass")` -/
def Encoding.decode (bytes : Bytes) : Encoding → Option Str
  | utf8 mark => decodeUtf8With true (bytes.drop mark)
  | utf16 big mark => decodeUtf16 big (bytes.drop mark)
  | utf32 big mark => decodeUtf32 big (bytes.drop mark)

/-- `json.loads(bytes)`.  A `UnicodeDecodeError` is a `ValueError`. -/
def loadsBytes (bytes : Bytes) : Except PyError Json :=
  match (detectEncoding bytes).decode bytes with
  | some text => loads text
  | none => .error .valueError

/-- `text.encode("utf-8")`, for a text that is ASCII. -/
def asciiBytes (text : Str) : Bytes := text.map (fun c => UInt8.ofNat c.val)

/-! ## 2. ASCII -/

/-- Printable ASCII. -/
def isPrintable (c : CodePoint) : Bool := 0x20 ≤ c.val && c.val < 0x7F

theorem toNat_ofNat_ascii {c : CodePoint} (h : isPrintable c = true) :
    (UInt8.ofNat c.val).toNat = c.val := by
  simp only [isPrintable, Bool.and_eq_true, decide_eq_true_eq] at h
  rw [UInt8.toNat_ofNat']
  omega

theorem decodeUtf8With_ascii (pass : Bool) {text : Str} (h : AllChars isPrintable text) :
    decodeUtf8With pass (asciiBytes text) = some text := by
  induction text with
  | nil => rfl
  | cons c text ih =>
    obtain ⟨hc, htext⟩ := allChars_cons.mp h
    have hval := toNat_ofNat_ascii hc
    simp only [isPrintable, Bool.and_eq_true, decide_eq_true_eq] at hc
    have hpoint : point c.val = c := ofNat_val c
    rw [asciiBytes, List.map_cons, decodeUtf8With.eq_def]
    simp only [hval, show c.val < 0x80 by omega, ↓reduceIte, hpoint]
    rw [← asciiBytes, ih htext, Option.map_some]

/-- No byte order mark and no zeros. -/
theorem detectEncoding_ascii {text : Str} (h : AllChars isPrintable text) :
    detectEncoding (asciiBytes text) = .utf8 0 := by
  have hbyte : ∀ c ∈ text, UInt8.ofNat c.val ≠ 0 ∧ UInt8.ofNat c.val ≠ 0xFE ∧
      UInt8.ofNat c.val ≠ 0xFF ∧ UInt8.ofNat c.val ≠ 0xEF := by
    intro c hc
    have hval := toNat_ofNat_ascii (h c hc)
    have hc := h c hc
    simp only [isPrintable, Bool.and_eq_true, decide_eq_true_eq] at hc
    refine ⟨?_, ?_, ?_, ?_⟩
    all_goals
      intro he
      rw [he] at hval
      simp at hval
      omega
  match text with
  | [] => rfl
  | [a] => simp [asciiBytes, detectEncoding, List.isPrefixOf]
  | [a, b] =>
    obtain ⟨h0, hFE, hFF, hEF⟩ := hbyte a (by simp)
    obtain ⟨hb, -⟩ := hbyte b (by simp)
    simp [asciiBytes, detectEncoding, List.isPrefixOf, h0, hb, hFE.symm, hFF.symm]
  | [a, b, c] =>
    obtain ⟨-, hFE, hFF, hEF⟩ := hbyte a (by simp)
    simp [asciiBytes, detectEncoding, List.isPrefixOf, hFE.symm, hFF.symm, hEF.symm]
  | a :: b :: c :: d :: text =>
    obtain ⟨h0, hFE, hFF, hEF⟩ := hbyte a (by simp)
    obtain ⟨hb, -⟩ := hbyte b (by simp)
    simp [asciiBytes, detectEncoding, List.isPrefixOf, h0, hb, h0.symm, hFE.symm, hFF.symm,
      hEF.symm]

theorem loadsBytes_ascii {text : Str} (h : AllChars isPrintable text) :
    loadsBytes (asciiBytes text) = loads text := by
  rw [loadsBytes, detectEncoding_ascii h, Encoding.decode, List.drop_zero,
    decodeUtf8With_ascii true h]

/-! ## 3. What `json.loads` returns -/

theorem lt_of_readDigits : ∀ {s : Str} {d : Nat}, d ∈ (readDigits s).1 → d < 10
  | [], _, h => nomatch h
  | c :: s, d, h => by
    unfold readDigits at h
    cases hc : digitVal c with
    | none => rw [hc] at h; cases h
    | some e =>
      rw [hc] at h
      rcases List.mem_cons.mp h with rfl | h
      · unfold digitVal at hc
        split at hc
        · rename_i hdigit
          simp only [Bool.and_eq_true, decide_eq_true_eq] at hdigit
          cases hc
          omega
        · cases hc
      · exact lt_of_readDigits h

theorem readInt_ok {s r : Str} {ds : List Nat} (h : readInt s = some (ds, r)) :
    ds ≠ [] ∧ ∀ d ∈ ds, d < 10 := by
  cases s with
  | nil => cases h
  | cons c s =>
    rw [readInt] at h
    by_cases hzero : c = 0x30
    · rw [if_pos hzero] at h
      cases h
      exact ⟨by simp, by simp⟩
    · rw [if_neg hzero] at h
      by_cases hne : (readDigits (c :: s)).1 = []
      · rw [if_pos hne] at h
        cases h
      · rw [if_neg hne] at h
        have hds := congrArg Prod.fst (Option.some.inj h)
        simp only at hds
        rw [← hds]
        exact ⟨hne, fun d hd => lt_of_readDigits hd⟩

theorem ofDecDigits_lt {ds : List Nat} (h : ∀ d ∈ ds, d < 10) :
    ofDecDigits ds < 10 ^ ds.length := by
  induction ds with
  | nil => simp [ofDecDigits]
  | cons d ds ih =>
    have hd := h d List.mem_cons_self
    have hrest := ih (fun e he => h e (List.mem_cons_of_mem _ he))
    rw [ofDecDigits_cons, List.length_cons, Nat.pow_succ]
    have := Nat.mul_le_mul_right (10 ^ ds.length) (show d + 1 ≤ 10 by omega)
    rw [Nat.add_mul, Nat.one_mul] at this
    omega

theorem parseNumber_short {s r : Str} {d : Doc} (h : parseNumber s = .ok (d, r)) :
    d.value.hasShortInts = true := by
  unfold parseNumber at h
  cases hread : readNumber s with
  | none => rw [hread] at h; cases h
  | some p =>
    obtain ⟨t, r'⟩ := p
    rw [hread] at h
    simp only at h
    split at h
    · cases h
    rename_i hshort
    cases h
    cases hint : t.isInt with
    | false =>
      simp only [Doc.value, hint, Bool.false_eq_true, ↓reduceIte]
      rfl
    | true =>
      have hlen : t.int.length ≤ 4300 := Nat.not_lt.mp (fun hlt => hshort ⟨hint, hlt⟩)
      have hdigits : t.int ≠ [] ∧ ∀ d ∈ t.int, d < 10 := by
        unfold readNumber at hread
        cases hi : readInt (readMinus s).2 with
        | none => rw [hi] at hread; cases hread
        | some q =>
          rw [hi] at hread
          cases hread
          exact readInt_ok hi
      have habs : t.toInt.natAbs = ofDecDigits t.int := by
        unfold NumTok.toInt
        split
        · rw [Int.natAbs_neg, Int.natAbs_natCast]
        · exact Int.natAbs_natCast _
      have hle := decDigits_length_le (ofDecDigits_lt hdigits.2)
        (List.length_pos_iff.mpr hdigits.1)
      simp only [Doc.value, hint, ↓reduceIte, Json.hasShortInts, Json.every, habs,
        decide_eq_true_eq]
      omega

theorem parseAtom_short {s r : Str} {d : Doc} (h : parseAtom s = .ok (d, r)) :
    d.value.hasShortInts = true := by
  unfold parseAtom at h
  split at h
  · cases h; rfl
  split at h
  · cases h; rfl
  split at h
  · cases h; rfl
  split at h
  · cases h; rfl
  split at h
  · cases h; rfl
  split at h
  · cases h; rfl
  exact parseNumber_short h

theorem hasShortInts_arr {ds : List Doc} (h : ∀ d ∈ ds, d.value.hasShortInts = true) :
    (Doc.arr ds).value.hasShortInts = true := by
  rw [Doc.value, Json.hasShortInts, Json.every_arr, Doc.itemsValue_eq_map]
  intro v hv
  obtain ⟨d, hd, rfl⟩ := List.mem_map.mp hv
  exact h d hd

theorem hasShortInts_obj {ms : List (Str × Doc)} (h : ∀ p ∈ ms, p.2.value.hasShortInts = true) :
    (Doc.obj ms).value.hasShortInts = true := by
  rw [Doc.value, Json.hasShortInts, Json.every_obj, Doc.membersValue_eq_map]
  refine ⟨rfl, fun p hp => ?_⟩
  obtain ⟨q, hq, rfl⟩ := List.mem_map.mp ((Dict.mem_update hp).resolve_left (by simp))
  exact h q hq

mutual

theorem parseValue_short : ∀ {fuel : Nat} {s r : Str} {d : Doc}, parseValue fuel s = .ok (d, r) →
    d.value.hasShortInts = true
  | 0, _, _, _, h => nomatch h
  | _ + 1, [], _, _, h => nomatch h
  | fuel + 1, c :: s, r, d, h => by
    rw [parseValue] at h
    split at h
    · split at h
      · cases h; rfl
      · cases h
    split at h
    · split at h
      · cases h; rfl
      · split at h
        · rename_i hitems
          cases h
          exact hasShortInts_arr (parseItems_short hitems)
        · cases h
    split at h
    · split at h
      · cases h; rfl
      · split at h
        · rename_i hmembers
          cases h
          exact hasShortInts_obj (parseMembers_short hmembers)
        · cases h
    exact parseAtom_short h

theorem parseItems_short : ∀ {fuel : Nat} {s r : Str} {ds : List Doc},
    parseItems fuel s = .ok (ds, r) → ∀ d ∈ ds, d.value.hasShortInts = true
  | 0, _, _, _, h => nomatch h
  | fuel + 1, s, r, ds, h => by
    rw [parseItems] at h
    split at h
    · cases h
    · rename_i d r' hd
      have hfirst := parseValue_short hd
      split at h
      · cases h
        intro e he
        rwa [List.mem_singleton.mp he]
      · split at h
        · rename_i hrest
          cases h
          intro e he
          rcases List.mem_cons.mp he with rfl | he
          · exact hfirst
          · exact parseItems_short hrest e he
        · cases h
      · cases h

theorem parseMembers_short : ∀ {fuel : Nat} {s r : Str} {ms : List (Str × Doc)},
    parseMembers fuel s = .ok (ms, r) → ∀ p ∈ ms, p.2.value.hasShortInts = true
  | 0, _, _, _, h => nomatch h
  | fuel + 1, s, r, ms, h => by
    rw [parseMembers.eq_def] at h
    simp only at h
    split at h
    · split at h
      · cases h
      · split at h
        · split at h
          · cases h
          · rename_i hd
            have hfirst := parseValue_short hd
            split at h
            · cases h
              intro p hp
              rwa [List.mem_singleton.mp hp]
            · split at h
              · rename_i hrest
                cases h
                intro p hp
                rcases List.mem_cons.mp hp with rfl | hp
                · exact hfirst
                · exact parseMembers_short hrest p hp
              · cases h
            · cases h
        · cases h
    · cases h

end

/-- `json.dumps` writes whatever `json.loads` returns. -/
theorem loads_hasShortInts {s : Str} {v : Json} (h : loads s = .ok v) : v.hasShortInts = true := by
  unfold loads at h
  split at h
  · cases h
  · rename_i d r hd
    split at h
    · cases h
      exact parseValue_short hd
    · cases h

theorem loadsBytes_eq_ok {bytes : Bytes} {v : Json} (h : loadsBytes bytes = .ok v) :
    ∃ text, loads text = .ok v := by
  unfold loadsBytes at h
  split at h
  · exact ⟨_, h⟩
  · cases h

/-! ## 4. What `json.dumps` writes -/

theorem charTest_printable :
    CharTest isPrintable (fun c => decide (c.val < 0x20) || isPrintable c) where
  ascii c h1 h2 := by
    simp only [isPrintable, Bool.and_eq_true, decide_eq_true_eq]
    exact ⟨h1, h2⟩
  plain c h := by simp [show ¬ c.val < 0x20 by omega]
  control c h := by simp [h]

theorem isPrintable_hexChar {d : Nat} (h : d < 16) : isPrintable (hexChar d) = true := by
  obtain ⟨h1, h2⟩ := hexChar_ascii d h
  simp only [isPrintable, Bool.and_eq_true, decide_eq_true_eq]
  exact ⟨h1, h2⟩

theorem printable_escapeUnit (u : Nat) : AllChars isPrintable (escapeUnit u) := by
  intro c hc
  simp only [escapeUnit, List.mem_cons, List.not_mem_nil, or_false] at hc
  rcases hc with rfl | rfl | rfl | rfl | rfl | rfl
  · rfl
  · rfl
  all_goals exact isPrintable_hexChar (by omega)

theorem printable_escapeAscii (c : CodePoint) : AllChars isPrintable (escapeAscii c) := by
  unfold escapeAscii
  split
  · decide
  split
  · decide
  split
  · decide
  split
  · decide
  split
  · decide
  split
  · decide
  split
  · decide
  split
  · rename_i hplain
    intro d hd
    obtain rfl := List.mem_singleton.mp hd
    simp only [isPrintable, Bool.and_eq_true, decide_eq_true_eq]
    exact hplain
  split
  · exact printable_escapeUnit _
  · exact allChars_append.mpr ⟨printable_escapeUnit _, printable_escapeUnit _⟩

theorem printable_text (s : Str) : AllChars isPrintable (Quoting.ascii.text s) := by
  have hbody : AllChars isPrintable (s.flatMap escapeAscii) := by
    intro c hc
    obtain ⟨d, -, hd⟩ := List.mem_flatMap.mp hc
    exact printable_escapeAscii d c hd
  exact allChars_cons.mpr ⟨rfl, allChars_append.mpr ⟨hbody, by decide⟩⟩

section Printable

variable {pad : Str} (hpad : AllChars isPrintable pad)

include hpad

mutual

theorem printable_render : ∀ d : Doc, d.Ok → AllChars isPrintable (d.render .ascii pad)
  | .null, _ => allChars_ascii charTest_printable rfl
  | .bool true, _ => allChars_ascii charTest_printable rfl
  | .bool false, _ => allChars_ascii charTest_printable rfl
  | .nan, _ => allChars_ascii charTest_printable rfl
  | .inf true, _ => allChars_ascii charTest_printable rfl
  | .inf false, _ => allChars_ascii charTest_printable rfl
  | .num _, h => allChars_numTok charTest_printable h.1
  | .str s, _ => printable_text s
  | .arr [], _ => allChars_ascii charTest_printable rfl
  | .arr (d :: ds), h => allChars_cons.mpr ⟨rfl, allChars_append.mpr
      ⟨printable_render d h.1, printable_renderItems ds h.2⟩⟩
  | .obj [], _ => allChars_ascii charTest_printable rfl
  | .obj ((k, d) :: ms), h => allChars_cons.mpr ⟨rfl, allChars_append.mpr
      ⟨printable_text k, allChars_cons.mpr ⟨rfl, allChars_append.mpr ⟨hpad, allChars_append.mpr
        ⟨printable_render d h.1, printable_renderMembers ms h.2⟩⟩⟩⟩⟩

theorem printable_renderItems : ∀ ds : List Doc, Doc.OkItems ds →
    AllChars isPrintable (Doc.renderItems .ascii pad ds)
  | [], _ => allChars_ascii charTest_printable rfl
  | d :: ds, h => allChars_cons.mpr ⟨rfl, allChars_append.mpr ⟨hpad, allChars_append.mpr
      ⟨printable_render d h.1, printable_renderItems ds h.2⟩⟩⟩

theorem printable_renderMembers : ∀ ms : List (Str × Doc), Doc.OkMembers ms →
    AllChars isPrintable (Doc.renderMembers .ascii pad ms)
  | [], _ => allChars_ascii charTest_printable rfl
  | (k, d) :: ms, h => allChars_cons.mpr ⟨rfl, allChars_append.mpr ⟨hpad, allChars_append.mpr
      ⟨printable_text k, allChars_cons.mpr ⟨rfl, allChars_append.mpr ⟨hpad, allChars_append.mpr
        ⟨printable_render d h.1, printable_renderMembers ms h.2⟩⟩⟩⟩⟩⟩

end

end Printable

theorem printable_dumpsAscii {v : Json} {text : Str} (h : dumpsAscii [0x20] v = .ok text) :
    AllChars isPrintable text := by
  unfold dumpsAscii at h
  split at h
  · rename_i hshort
    cases h
    exact printable_render (by decide) _ (Json.doc_ok hshort)
  · cases h

/-- Sending a value as JSON. -/
theorem loadsBytes_dumpsAscii {v : Json} {text : Str} (h : dumpsAscii [0x20] v = .ok text) :
    loadsBytes (asciiBytes text) = .ok v.rejoin := by
  rw [loadsBytes_ascii (printable_dumpsAscii h), loads_dumpsAscii padSpace h]

/-! ## 5. Joined surrogates -/

/-- Neither surrogates nor what they are joined to. -/
def IsPlain (s : Str) : Prop := ∀ c ∈ s, c.val < 0xD800

instance (s : Str) : Decidable (IsPlain s) := List.decidableBAll _ s

theorem le_joinPair {c l : CodePoint} (hc : isHighSurrogate c = true)
    (hl : isLowSurrogate l = true) : 0x10000 ≤ (joinPair c l).val := by
  simp only [isHighSurrogate, isLowSurrogate, Bool.and_eq_true, decide_eq_true_eq] at hc hl
  have hval : (joinPair c l).val =
      0x10000 + (c.val - 0xD800) * 0x400 + (l.val - 0xDC00) := Nat.mod_eq_of_lt (by omega)
  omega

theorem joinSurrogates_of_plain {s : Str} (h : IsPlain s) : joinSurrogates s = s := by
  induction s with
  | nil => rfl
  | cons c s ih =>
    have hc : isHighSurrogate c = false := by
      have := h c List.mem_cons_self
      simp only [isHighSurrogate, Bool.and_eq_false_iff, decide_eq_false_iff_not]
      omega
    rw [joinSurrogates_cons, ih (fun d hd => h d (List.mem_cons_of_mem _ hd)),
      joinCons_of_not_high hc]

theorem joinSurrogates_of_isScalar {s : Str} (h : IsScalar s) : joinSurrogates s = s := by
  induction s with
  | nil => rfl
  | cons c s ih =>
    have hc : isHighSurrogate c = false := by
      have := h c List.mem_cons_self
      simp only [isSurrogate, Bool.and_eq_false_iff, decide_eq_false_iff_not] at this
      simp only [isHighSurrogate, Bool.and_eq_false_iff, decide_eq_false_iff_not]
      omega
    rw [joinSurrogates_cons, ih (fun d hd => h d (List.mem_cons_of_mem _ hd)),
      joinCons_of_not_high hc]

/-- Nothing but a plain string becomes that string. -/
theorem joinSurrogates_eq_plain_iff {k : Str} (hk : IsPlain k) : ∀ {s : Str},
    joinSurrogates s = k ↔ s = k := by
  intro s
  constructor
  · intro h
    subst h
    have hself : ∀ {s : Str}, IsPlain (joinSurrogates s) → s = joinSurrogates s := by
      intro s
      induction s with
      | nil => exact fun _ => rfl
      | cons c s ih =>
        intro hplain
        rw [joinSurrogates_cons] at hplain ⊢
        cases hs : joinSurrogates s with
        | nil =>
          rw [hs] at ih
          rw [ih (by simp [IsPlain])]
          rfl
        | cons l t =>
          rw [hs] at ih hplain
          rw [joinCons] at hplain ⊢
          by_cases hpair : (isHighSurrogate c && isLowSurrogate l) = true
          · rw [if_pos hpair] at hplain
            rw [Bool.and_eq_true] at hpair
            have hle := le_joinPair hpair.1 hpair.2
            have hlt := hplain _ List.mem_cons_self
            omega
          · rw [if_neg hpair] at hplain ⊢
            rw [ih (fun d hd => hplain d (List.mem_cons_of_mem _ hd))]
    exact hself hk
  · rintro rfl
    exact joinSurrogates_of_plain hk

namespace Json

theorem rejoinItems_eq_map (vs : List Json) : rejoinItems vs = vs.map rejoin := by
  induction vs with
  | nil => rfl
  | cons v vs ih => rw [rejoinItems, ih, List.map_cons]

theorem rejoinMembers_eq_map (ms : Dict Json) :
    rejoinMembers ms = ms.map (fun p => (joinSurrogates p.1, p.2.rejoin)) := by
  induction ms with
  | nil => rfl
  | cons p ms ih =>
    obtain ⟨k, v⟩ := p
    rw [rejoinMembers, ih, List.map_cons]

/-- Unicode text is sent as it is. -/
theorem rejoin_of_isText {v : Json} (hwf : v.Wf) (ht : v.isText = true) : v.rejoin = v := by
  induction v using Json.inductValue with
  | str s => exact congrArg str (joinSurrogates_of_isScalar (of_decide_eq_true ht))
  | arr xs ih =>
    have hxs : xs.map rejoin = xs.map id := List.map_congr_left fun x hx =>
      ih x hx (wf_arr.mp hwf x hx) (every_arr.mp ht x hx)
    rw [rejoin, rejoinItems_eq_map, hxs, List.map_id]
  | obj ms ih =>
    obtain ⟨hkeys, hmembers⟩ := every_obj.mp ht
    have hms : ms.map (fun p => (joinSurrogates p.1, p.2.rejoin)) = ms.map id := by
      refine List.map_congr_left fun p hp => ?_
      have hkey := of_decide_eq_true hkeys p.1 (List.mem_map.mpr ⟨p, hp, rfl⟩)
      rw [joinSurrogates_of_isScalar hkey, ih p hp ((wf_obj.mp hwf).2 p hp) (hmembers p hp)]
      rfl
    rw [rejoin, rejoinMembers_eq_map, hms, List.map_id, Dict.ofPairs_of_nodup (wf_obj.mp hwf).1]
  | null => rfl
  | bool b => rfl
  | int i => rfl
  | float x => rfl

/-- What is sent can be read. -/
theorem rejoin_wf (v : Json) : v.rejoin.Wf := by
  induction v using Json.inductValue with
  | arr xs ih =>
    rw [rejoin, rejoinItems_eq_map, wf_arr]
    intro x hx
    obtain ⟨y, hy, rfl⟩ := List.mem_map.mp hx
    exact ih y hy
  | obj ms ih =>
    rw [rejoin, wf_obj]
    refine ⟨Dict.nodup_ofPairs _, fun p hp => ?_⟩
    have hmem := Dict.mem_ofPairs hp
    rw [rejoinMembers_eq_map] at hmem
    obtain ⟨q, hq, rfl⟩ := List.mem_map.mp hmem
    exact ih q hq
  | null => rfl
  | bool b => rfl
  | int i => rfl
  | float x => rfl
  | str s => rfl

/-- The members of an object that is sent. -/
def rejoinObj (ms : Dict Json) : Dict Json := Dict.ofPairs (rejoinMembers ms)

theorem rejoin_obj (ms : Dict Json) : (Json.obj ms).rejoin = .obj (rejoinObj ms) := rfl

theorem lookup_update_rejoin {k : Str} (hk : IsPlain k) : ∀ {ms d : Dict Json}, ms.keys.Nodup →
    (d.update (rejoinMembers ms)).lookup k =
      ((ms.lookup k).map rejoin).or (d.lookup k)
  | [], d, _ => rfl
  | (j, v) :: ms, d, h => by
    obtain ⟨hj, hms⟩ := List.nodup_cons.mp h
    have ih := @lookup_update_rejoin k hk ms (d.set (joinSurrogates j) v.rejoin) hms
    have hstep : d.update (rejoinMembers ((j, v) :: ms)) =
        (d.set (joinSurrogates j) v.rejoin).update (rejoinMembers ms) := rfl
    rw [hstep, ih, Dict.lookup_set, Dict.lookup_cons_ite]
    by_cases hkj : k = j
    · subst hkj
      have hnone : ms.lookup k = none := by
        rw [List.lookup_eq_none_iff]
        intro p hp
        have : p.1 ≠ k := fun e => hj (List.mem_map.mpr ⟨p, hp, e⟩)
        simpa using this.symm
      rw [hnone, if_pos (joinSurrogates_of_plain hk).symm, if_pos rfl]
      rfl
    · rw [if_neg (fun e => hkj ((joinSurrogates_eq_plain_iff hk).mp e.symm).symm), if_neg hkj]

/-- A plain key names the same member after the value was sent. -/
theorem lookup_rejoin {k : Str} (hk : IsPlain k) {ms : Dict Json} (h : ms.keys.Nodup) :
    (rejoinObj ms).lookup k = (ms.lookup k).map rejoin := by
  rw [rejoinObj, Dict.ofPairs, lookup_update_rejoin hk h]
  cases ms.lookup k <;> rfl

/-- What is set under one key is not seen under another. -/
theorem lookup_rejoin_set {k a : Str} (hk : k ≠ joinSurrogates a) (x : Json) (ms : Dict Json) :
    (rejoinObj (ms.set a x)).lookup k = (rejoinObj ms).lookup k := by
  have hmiss : ∀ {d : Dict Json} {y : Json},
      (d.set (joinSurrogates a) y).lookup k = d.lookup k := by
    intro d y
    rw [Dict.lookup_set, if_neg hk]
  have hsame : ∀ (ms d e : Dict Json), d.lookup k = e.lookup k →
      (d.update (rejoinMembers ms)).lookup k = (e.update (rejoinMembers ms)).lookup k := by
    intro ms
    induction ms with
    | nil => exact fun _ _ h => h
    | cons p ms ih =>
      intro d e h
      refine ih _ _ ?_
      rw [Dict.lookup_set, Dict.lookup_set, h]
  have hgo : ∀ (ms d : Dict Json), (d.update (rejoinMembers (ms.set a x))).lookup k =
      (d.update (rejoinMembers ms)).lookup k := by
    intro ms
    induction ms with
    | nil => exact fun d => hmiss
    | cons p ms ih =>
      obtain ⟨j, v⟩ := p
      intro d
      unfold Dict.set
      split
      · rename_i hj
        subst hj
        exact hsame ms _ _ (hmiss.trans hmiss.symm)
      · exact ih _
  exact hgo ms []

theorem rejoinObj_ne_nil {ms : Dict Json} (h : ms ≠ []) : rejoinObj ms ≠ [] := by
  have hset : ∀ (d : Dict Json) k v, d.set k v ≠ [] := by
    intro d k v
    cases d with
    | nil => simp [Dict.set]
    | cons p d =>
      rw [Dict.set]
      split <;> simp
  have hupdate : ∀ (e d : Dict Json), d ≠ [] → d.update e ≠ [] := by
    intro e
    induction e with
    | nil => exact fun _ h => h
    | cons p e ih => exact fun d _ => ih _ (hset d p.1 p.2)
  cases ms with
  | nil => exact absurd rfl h
  | cons p ms =>
    obtain ⟨k, v⟩ := p
    exact hupdate (rejoinMembers ms) _ (hset [] (joinSurrogates k) v.rejoin)

theorem truthy_rejoin (v : Json) : v.rejoin.truthy = v.truthy := by
  cases v with
  | str s =>
    cases s with
    | nil => rfl
    | cons c s =>
      rw [rejoin, joinSurrogates_cons, truthy, truthy]
      cases joinSurrogates s with
      | nil => simp [joinCons]
      | cons l t =>
        rw [joinCons]
        split
        · simp
        · simp
  | arr xs => cases xs <;> rfl
  | obj ms =>
    cases ms with
    | nil => rfl
    | cons p ms =>
      rw [rejoin_obj, truthy, truthy]
      cases hr : rejoinObj (p :: ms) with
      | nil => exact absurd hr (rejoinObj_ne_nil (by simp))
      | cons q ns => rfl
  | null => rfl
  | bool b => rfl
  | int i => rfl
  | float x => rfl

end Json

end Axg.Python
