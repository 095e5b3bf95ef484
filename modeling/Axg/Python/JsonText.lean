/-
# JSON text: the scanner of `json.loads` and the writer of `json.dumps`

A document is read in two steps that Python takes at once.  `parse` is the scanner: it follows
`json.scanner` and `json.decoder` and returns a `Doc`, the tree of what the text spells, with
numbers still as digits.  `Doc.value` is what the decoder makes of it: an `int` where there is
neither fraction nor exponent, else the nearest `float`, and a dictionary where a repeated key
keeps its last value.

Writers differ in how they print numbers, how they space a document and how they escape its
strings, and in nothing else, so a writer is a `Doc`, a padding and a `Quoting`.
`parseValue_render` says that the scanner reads back the `Doc` that was written, its strings as
the quoting says, whatever follows it; hence `render_injective`: a document is determined by its
text where only the escapes are written that JSON asks for.
-/
import Axg.Python.Decimal
import Axg.Python.Json

namespace Axg.Python

/-! ## 1. Numbers -/

/-- A number as its text spells it.  An empty `frac` is no fraction; `exp` carries the sign of
the exponent, true for minus, and its digits. -/
structure NumTok where
  neg : Bool
  int : List Nat
  frac : List Nat
  exp : Option (Bool × List Nat)
deriving DecidableEq

def digitChar (d : Nat) : CodePoint := Fin.ofNat 0x110000 (0x30 + d)

def digitVal (c : CodePoint) : Option Nat :=
  if 0x30 ≤ c.val && c.val ≤ 0x39 then some (c.val - 0x30) else none

def digitsText (ds : List Nat) : Str := ds.map digitChar

theorem digitVal_digitChar {d : Nat} (h : d < 10) : digitVal (digitChar d) = some d := by
  have hv : (digitChar d).val = 0x30 + d := Nat.mod_eq_of_lt (by omega)
  simp only [digitVal, hv]
  rw [if_pos (by simp; omega)]
  congr 1; omega

theorem digitsText_append (ds es : List Nat) :
    digitsText (ds ++ es) = digitsText ds ++ digitsText es := List.map_append

theorem digitsText_length (ds : List Nat) : (digitsText ds).length = ds.length := by
  simp [digitsText]

namespace NumTok

/-- Neither fraction nor exponent: the decoder calls `int` and not `float`. -/
def isInt (t : NumTok) : Bool := t.frac.isEmpty && t.exp.isNone

def coeff (t : NumTok) : Nat := ofDecDigits (t.int ++ t.frac)

/-- The exponent that the text writes. -/
def written (t : NumTok) : Int :=
  match t.exp with
  | none => 0
  | some (neg, ds) => if neg then -(ofDecDigits ds : Int) else ofDecDigits ds

/-- The magnitude of the number. -/
def decimal (t : NumTok) : Decimal := ⟨t.coeff, t.written - t.frac.length⟩

/-- `int(text)`. -/
def toInt (t : NumTok) : Int := if t.neg then -(ofDecDigits t.int : Int) else ofDecDigits t.int

/-- `float(text)`: the nearest double, an infinity past the largest. -/
def toFloat (t : NumTok) : F64 :=
  match roundDecimal t.decimal with
  | some m => .finite t.neg m
  | none => .inf t.neg

def expText : Option (Bool × List Nat) → Str
  | none => []
  | some (neg, ds) => 0x65 :: (if neg then 0x2D else 0x2B) :: digitsText ds

def fracText : List Nat → Str
  | [] => []
  | d :: ds => 0x2E :: digitsText (d :: ds)

def text (t : NumTok) : Str :=
  (if t.neg then [0x2D] else []) ++ (digitsText t.int ++ (fracText t.frac ++ expText t.exp))

/-- The digits are digits, without leading zeros in front of the point. -/
structure Ok (t : NumTok) : Prop where
  int_lt : ∀ d ∈ t.int, d < 10
  int_head : t.int = [0] ∨ ∃ d ds, t.int = d :: ds ∧ d ≠ 0
  frac_lt : ∀ d ∈ t.frac, d < 10
  exp_ok : ∀ p, t.exp = some p → p.2 ≠ [] ∧ ∀ d ∈ p.2, d < 10

theorem Ok.int_ne_nil {t : NumTok} (h : t.Ok) : t.int ≠ [] := by
  rcases h.int_head with h | ⟨d, ds, h, _⟩ <;> simp [h]

end NumTok

/-- The digits at the head of a text, and what follows them. -/
def readDigits : Str → List Nat × Str
  | [] => ([], [])
  | c :: s =>
    match digitVal c with
    | some d => (d :: (readDigits s).1, (readDigits s).2)
    | none => ([], c :: s)

/-- The integer part: one zero, or digits that do not start with one. -/
def readInt : Str → Option (List Nat × Str)
  | [] => none
  | c :: s =>
    if c = 0x30 then some ([0], s)
    else if (readDigits (c :: s)).1 = [] then none
    else some (readDigits (c :: s))

def readFrac : Str → List Nat × Str
  | [] => ([], [])
  | c :: s =>
    if c = 0x2E ∧ (readDigits s).1 ≠ [] then readDigits s else ([], c :: s)

def readSign : Str → Bool × Str
  | [] => (false, [])
  | c :: s => if c = 0x2D then (true, s) else if c = 0x2B then (false, s) else (false, c :: s)

def readExp : Str → Option (Bool × List Nat) × Str
  | [] => (none, [])
  | c :: s =>
    if (c = 0x65 ∨ c = 0x45) ∧ (readDigits (readSign s).2).1 ≠ [] then
      (some ((readSign s).1, (readDigits (readSign s).2).1), (readDigits (readSign s).2).2)
    else (none, c :: s)

/-- A minus sign at the head, and what follows it. -/
def readMinus : Str → Bool × Str
  | [] => (false, [])
  | c :: s => if c = 0x2D then (true, s) else (false, c :: s)

/-- The scanner's number: the longest match of its pattern. -/
def readNumber (s : Str) : Option (NumTok × Str) :=
  match readInt (readMinus s).2 with
  | none => none
  | some (int, r) =>
    let frac := readFrac r
    let exp := readExp frac.2
    some (⟨(readMinus s).1, int, frac.1, exp.1⟩, exp.2)

/-- A text that does not continue the number in front of it. -/
def NumEnd (s : Str) : Prop :=
  ∀ c r, s = c :: r → digitVal c = none ∧ c ≠ 0x2E ∧ c ≠ 0x65 ∧ c ≠ 0x45

theorem numEnd_nil : NumEnd [] := by intro c r h; cases h

theorem numEnd_cons {c : CodePoint} {s : Str} (hd : digitVal c = none) (h1 : c ≠ 0x2E)
    (h2 : c ≠ 0x65) (h3 : c ≠ 0x45) : NumEnd (c :: s) := by
  intro c' r h; cases h; exact ⟨hd, h1, h2, h3⟩

/-- No digit at the head. -/
def NoDigit (s : Str) : Prop := ∀ c r, s = c :: r → digitVal c = none

theorem NumEnd.noDigit {s : Str} (h : NumEnd s) : NoDigit s := fun c r e => (h c r e).1

theorem noDigit_cons {c : CodePoint} {s : Str} (h : digitVal c = none) : NoDigit (c :: s) := by
  intro c' r e; cases e; exact h

theorem readDigits_of_noDigit {s : Str} (h : NoDigit s) : readDigits s = ([], s) := by
  cases s with
  | nil => rfl
  | cons c r => simp [readDigits, h c r rfl]

theorem readDigits_append {ds : List Nat} {r : Str} (hds : ∀ d ∈ ds, d < 10) (hr : NoDigit r) :
    readDigits (digitsText ds ++ r) = (ds, r) := by
  induction ds with
  | nil => exact readDigits_of_noDigit hr
  | cons d ds ih =>
    have ih := ih (fun e he => hds e (by simp [he]))
    simp only [digitsText, List.map_cons, List.cons_append] at ih ⊢
    simp only [readDigits, digitVal_digitChar (hds d (by simp)), ih]

theorem digitChar_ne {d : Nat} {c : CodePoint} (hd : d < 10) (hc : digitVal c = none) :
    digitChar d ≠ c := by
  rintro rfl
  rw [digitVal_digitChar hd] at hc
  cases hc

theorem readInt_append {t : NumTok} {r : Str} (h : t.Ok) (hr : NoDigit r) :
    readInt (digitsText t.int ++ r) = some (t.int, r) := by
  have hall := readDigits_append h.int_lt hr
  rcases h.int_head with h0 | ⟨d, ds, hds, hd⟩
  · rw [h0]; rfl
  · rw [hds] at hall ⊢
    have hlt : d < 10 := h.int_lt d (by simp [hds])
    have hne : digitChar d ≠ 0x30 := by
      intro e
      have := digitVal_digitChar hlt
      rw [e] at this
      simp [digitVal] at this
      exact hd this.symm
    simp only [digitsText, List.map_cons, List.cons_append] at hall ⊢
    simp [readInt, hne, hall]

theorem readFrac_append {ds : List Nat} {r : Str} (hds : ∀ d ∈ ds, d < 10) (hr : NoDigit r)
    (hdot : ∀ c s, r = c :: s → c ≠ 0x2E) : readFrac (NumTok.fracText ds ++ r) = (ds, r) := by
  cases ds with
  | nil =>
    cases r with
    | nil => rfl
    | cons c s => simp [NumTok.fracText, readFrac, hdot c s rfl]
  | cons d ds =>
    have hall := readDigits_append hds hr
    simp [NumTok.fracText, readFrac, hall]

theorem readExp_append {e : Option (Bool × List Nat)} {r : Str}
    (he : ∀ p, e = some p → p.2 ≠ [] ∧ ∀ d ∈ p.2, d < 10) (hr : NumEnd r) :
    readExp (NumTok.expText e ++ r) = (e, r) := by
  cases e with
  | none =>
    cases r with
    | nil => rfl
    | cons c s =>
      obtain ⟨-, -, h1, h2⟩ := hr c s rfl
      simp [NumTok.expText, readExp, h1, h2]
  | some p =>
    obtain ⟨neg, ds⟩ := p
    obtain ⟨hne, hlt⟩ := he _ rfl
    simp only at hne hlt
    have hall := readDigits_append hlt hr.noDigit
    have hsign : readSign ((if neg then 0x2D else 0x2B) :: (digitsText ds ++ r))
        = (neg, digitsText ds ++ r) := by
      cases neg <;> simp [readSign]
    simp [NumTok.expText, readExp, hsign, hall, hne]

theorem readMinus_text {t : NumTok} (h : t.Ok) (r : Str) :
    readMinus (t.text ++ r)
      = (t.neg, digitsText t.int ++ (NumTok.fracText t.frac ++ (NumTok.expText t.exp ++ r))) := by
  obtain ⟨d, ds, hds⟩ := List.exists_cons_of_ne_nil h.int_ne_nil
  have hlt : d < 10 := h.int_lt d (by simp [hds])
  have hne : digitChar d ≠ 0x2D := digitChar_ne hlt (by decide)
  cases hn : t.neg
  · simp [NumTok.text, hn, hds, digitsText, readMinus, hne]
  · simp [NumTok.text, hn, readMinus]

theorem noDigit_expText (e : Option (Bool × List Nat)) {r : Str} (hr : NoDigit r) :
    NoDigit (NumTok.expText e ++ r) := by
  cases e with
  | none => simpa [NumTok.expText] using hr
  | some p => exact noDigit_cons (by decide)

theorem noDigit_fracText (ds : List Nat) {r : Str} (hr : NoDigit r) :
    NoDigit (NumTok.fracText ds ++ r) := by
  cases ds with
  | nil => simpa [NumTok.fracText] using hr
  | cons d ds => exact noDigit_cons (by decide)

/-- The scanner reads back the number that was written, and stops where it ends. -/
theorem readNumber_append {t : NumTok} {r : Str} (h : t.Ok) (hr : NumEnd r) :
    readNumber (t.text ++ r) = some (t, r) := by
  have hexp := noDigit_expText t.exp hr.noDigit
  have hdot : ∀ c s, NumTok.expText t.exp ++ r = c :: s → c ≠ 0x2E := by
    intro c s e
    cases ht : t.exp with
    | none => rw [ht] at e; exact (hr c s (by simpa [NumTok.expText] using e)).2.1
    | some p =>
      rw [ht] at e
      simp only [NumTok.expText, List.cons_append, List.cons.injEq] at e
      rw [← e.1]; decide
  have hfrac := noDigit_fracText t.frac hexp
  simp only [readNumber, readMinus_text h, readInt_append h hfrac,
    readFrac_append h.frac_lt hexp hdot, readExp_append h.exp_ok hr]

/-! ## 2. Strings -/

def hexChar (d : Nat) : CodePoint :=
  Fin.ofNat 0x110000 (if d < 10 then 0x30 + d else 0x57 + d)

def hexVal (c : CodePoint) : Option Nat :=
  if 0x30 ≤ c.val && c.val ≤ 0x39 then some (c.val - 0x30)
  else if 0x61 ≤ c.val && c.val ≤ 0x66 then some (c.val - 0x57)
  else if 0x41 ≤ c.val && c.val ≤ 0x46 then some (c.val - 0x37)
  else none

theorem hexVal_hexChar : ∀ d, d < 16 → hexVal (hexChar d) = some d := by decide

/-- The code unit of an escape's four hexadecimal digits. -/
def hex4 (a b c d : CodePoint) : Option Nat :=
  match hexVal a, hexVal b, hexVal c, hexVal d with
  | some x, some y, some z, some w => some (((x * 16 + y) * 16 + z) * 16 + w)
  | _, _, _, _ => none

/-- `json.encoder` with `ensure_ascii=False`: the quote, the backslash and the control
characters are escaped and nothing else is. -/
def escapeChar (c : CodePoint) : Str :=
  if c = 0x22 then [0x5C, 0x22]
  else if c = 0x5C then [0x5C, 0x5C]
  else if c = 0x0A then [0x5C, 0x6E]
  else if c = 0x0D then [0x5C, 0x72]
  else if c = 0x09 then [0x5C, 0x74]
  else if c = 0x0C then [0x5C, 0x66]
  else if c = 0x08 then [0x5C, 0x62]
  else if c.val < 0x20 then [0x5C, 0x75, 0x30, 0x30, hexChar (c.val / 16), hexChar (c.val % 16)]
  else [c]

/-- `json.dumps(s, ensure_ascii=False)` of a string. -/
def quote (s : Str) : Str := 0x22 :: (s.flatMap escapeChar ++ [0x22])

def consChar (c : CodePoint) : Except PyError (Str × Str) → Except PyError (Str × Str)
  | .ok (t, r) => .ok (c :: t, r)
  | .error e => .error e

/-- The one-character escapes. -/
def unescape (c : CodePoint) : Option CodePoint :=
  if c = 0x22 then some 0x22
  else if c = 0x5C then some 0x5C
  else if c = 0x2F then some 0x2F
  else if c = 0x62 then some 0x08
  else if c = 0x66 then some 0x0C
  else if c = 0x6E then some 0x0A
  else if c = 0x72 then some 0x0D
  else if c = 0x74 then some 0x09
  else none

/-- Does the text go on with the escape of a low surrogate? -/
def escapedLow : Str → Bool
  | 0x5C :: 0x75 :: a :: b :: c :: d :: _ =>
    match hex4 a b c d with
    | some l => 0xDC00 ≤ l && l ≤ 0xDFFF
    | none => false
  | _ => false

/-- A high surrogate in front of a scanned string: joined with the low one that was escaped
right after it, else kept alone. -/
def joinHigh (u : Nat) (low : Bool) : Except PyError (Str × Str) → Except PyError (Str × Str)
  | .ok (l :: t, r) =>
    if low then .ok (Fin.ofNat 0x110000 (0x10000 + (u - 0xD800) * 0x400 + (l.val - 0xDC00)) :: t, r)
    else .ok (Fin.ofNat 0x110000 u :: l :: t, r)
  | .ok ([], r) => .ok ([Fin.ofNat 0x110000 u], r)
  | .error e => .error e

/-- `scanstring`, from after the opening quote: the string and what follows the closing quote. -/
def scanString : Str → Except PyError (Str × Str)
  | [] => .error .jsonDecodeError
  | 0x5C :: 0x75 :: a :: b :: c :: d :: s =>
    match hex4 a b c d with
    | none => .error .jsonDecodeError
    | some u =>
      if 0xD800 ≤ u ∧ u ≤ 0xDBFF then joinHigh u (escapedLow s) (scanString s)
      else consChar (Fin.ofNat 0x110000 u) (scanString s)
  | 0x5C :: c :: s =>
    match unescape c with
    | some c' => consChar c' (scanString s)
    | none => .error .jsonDecodeError
  | c :: s =>
    if c = 0x22 then .ok ([], s)
    else if c.val < 0x20 ∨ c = 0x5C then .error .jsonDecodeError
    else consChar c (scanString s)

/-- A character that is neither a quote nor a backslash nor a control character stands for
itself. -/
theorem scanString_plain {c : CodePoint} (h1 : c ≠ 0x22) (h2 : c ≠ 0x5C) (h3 : ¬ c.val < 0x20)
    (s : Str) : scanString (c :: s) = consChar c (scanString s) := by
  rw [scanString.eq_def]
  split
  · rename_i h; cases h
  · rename_i h; cases h; exact absurd rfl h2
  · rename_i h; cases h; exact absurd rfl h2
  · rename_i h; cases h; simp [h1, h2, h3]

theorem scanString_unescape {c c' : CodePoint} (hu : c ≠ 0x75) (h : unescape c = some c')
    (s : Str) : scanString (0x5C :: c :: s) = consChar c' (scanString s) := by
  rw [scanString.eq_def]
  split
  · rename_i h'; cases h'
  · rename_i h'; cases h'; exact absurd rfl hu
  · rename_i h'; cases h'; simp [h]
  · rename_i hno h'; cases h'; exact (hno _ _ rfl rfl).elim

/-- What the writer makes of a character, the scanner reads back as that character. -/
theorem scanString_escapeChar (c : CodePoint) (s : Str) :
    scanString (escapeChar c ++ s) = consChar c (scanString s) := by
  unfold escapeChar
  by_cases h22 : c = 0x22
  · subst h22; exact scanString_unescape (by decide) (by decide) s
  by_cases h5C : c = 0x5C
  · subst h5C; exact scanString_unescape (by decide) (by decide) s
  by_cases h0A : c = 0x0A
  · subst h0A; exact scanString_unescape (by decide) (by decide) s
  by_cases h0D : c = 0x0D
  · subst h0D; exact scanString_unescape (by decide) (by decide) s
  by_cases h09 : c = 0x09
  · subst h09; exact scanString_unescape (by decide) (by decide) s
  by_cases h0C : c = 0x0C
  · subst h0C; exact scanString_unescape (by decide) (by decide) s
  by_cases h08 : c = 0x08
  · subst h08; exact scanString_unescape (by decide) (by decide) s
  by_cases hctl : c.val < 0x20
  · have hhi := hexVal_hexChar (c.val / 16) (by omega)
    have hlo := hexVal_hexChar (c.val % 16) (by omega)
    have hhex : hex4 0x30 0x30 (hexChar (c.val / 16)) (hexChar (c.val % 16)) = some c.val := by
      have h0 : hexVal 0x30 = some 0 := by decide
      simp only [hex4, h0, hhi, hlo, Option.some.injEq]
      omega
    have hnot : ¬ (0xD800 ≤ c.val ∧ c.val ≤ 0xDBFF) := by omega
    have hc : Fin.ofNat 0x110000 c.val = c := Fin.ext (Nat.mod_eq_of_lt c.isLt)
    simp only [h22, h5C, h0A, h0D, h09, h0C, h08, hctl, ↓reduceIte, List.cons_append,
      List.nil_append]
    rw [scanString, hhex]
    simp only [hnot, ↓reduceIte, hc]
  · simp only [h22, h5C, h0A, h0D, h09, h0C, h08, hctl, ↓reduceIte, List.cons_append,
      List.nil_append]
    exact scanString_plain h22 h5C hctl s

/-- The scanner reads back the string that was written. -/
theorem scanString_append (s r : Str) :
    scanString (s.flatMap escapeChar ++ 0x22 :: r) = .ok (s, r) := by
  induction s with
  | nil => rfl
  | cons c s ih => rw [List.flatMap_cons, List.append_assoc, scanString_escapeChar, ih]; rfl

/-! ## 3. Documents -/

/-- What a JSON text spells. -/
inductive Doc
  | null
  | bool (b : Bool)
  | num (t : NumTok)
  | nan
  | inf (neg : Bool)
  | str (s : Str)
  | arr (items : List Doc)
  | obj (members : List (Str × Doc))

namespace Doc

mutual

/-- The value the decoder builds. -/
def value : Doc → Json
  | .null => .null
  | .bool b => .bool b
  | .num t => if t.isInt then .int t.toInt else .float t.toFloat
  | .nan => .float .nan
  | .inf neg => .float (.inf neg)
  | .str s => .str s
  | .arr xs => .arr (itemsValue xs)
  | .obj ms => .obj (Dict.ofPairs (membersValue ms))

def itemsValue : List Doc → List Json
  | [] => []
  | d :: ds => value d :: itemsValue ds

def membersValue : List (Str × Doc) → List (Str × Json)
  | [] => []
  | (k, d) :: ms => (k, value d) :: membersValue ms

end

theorem itemsValue_eq_map (ds : List Doc) : itemsValue ds = ds.map value := by
  induction ds with
  | nil => rfl
  | cons d ds ih => rw [itemsValue, ih]; rfl

theorem membersValue_eq_map (ms : List (Str × Doc)) :
    membersValue ms = ms.map (fun p => (p.1, value p.2)) := by
  induction ms with
  | nil => rfl
  | cons p ms ih => obtain ⟨k, d⟩ := p; rw [membersValue, ih]; rfl

mutual

/-- The numbers are well-formed, and within the interpreter's limit on the digits of an `int`. -/
def Ok : Doc → Prop
  | .num t => t.Ok ∧ t.int.length ≤ 4300
  | .arr ds => OkItems ds
  | .obj ms => OkMembers ms
  | _ => True

def OkItems : List Doc → Prop
  | [] => True
  | d :: ds => Ok d ∧ OkItems ds

def OkMembers : List (Str × Doc) → Prop
  | [] => True
  | (_, d) :: ms => Ok d ∧ OkMembers ms

end

theorem okItems_iff {ds : List Doc} : OkItems ds ↔ ∀ d ∈ ds, d.Ok := by
  induction ds with
  | nil => simp [OkItems]
  | cons d ds ih => simp [OkItems, ih]

theorem okMembers_iff {ms : List (Str × Doc)} : OkMembers ms ↔ ∀ p ∈ ms, p.2.Ok := by
  induction ms with
  | nil => simp [OkMembers]
  | cons p ms ih => obtain ⟨k, d⟩ := p; simp only [OkMembers, ih, List.mem_cons, forall_eq_or_imp]

mutual

/-- How much fuel the scanner spends on a document. -/
def cost : Doc → Nat
  | .arr ds => 1 + costItems ds
  | .obj ms => 1 + costMembers ms
  | _ => 1

def costItems : List Doc → Nat
  | [] => 0
  | d :: ds => 1 + cost d + costItems ds

def costMembers : List (Str × Doc) → Nat
  | [] => 0
  | (_, d) :: ms => 1 + cost d + costMembers ms

end

end Doc

/-! ## 4. The scanner -/

def isJsonSpace (c : CodePoint) : Bool := c = 0x20 || c = 0x09 || c = 0x0A || c = 0x0D

def skipSpace (s : Str) : Str := s.dropWhile isJsonSpace

/-- What follows a literal, when the text starts with it. -/
def dropLit : Str → Str → Option Str
  | [], s => some s
  | _ :: _, [] => none
  | a :: p, b :: s => if a = b then dropLit p s else none

/-- The numbers, with the limit that `int` puts on the digits it converts. -/
def parseNumber (s : Str) : Except PyError (Doc × Str) :=
  match readNumber s with
  | none => .error .jsonDecodeError
  | some (t, r) =>
    if t.isInt = true ∧ 4300 < t.int.length then .error .valueError else .ok (.num t, r)

/-- The values that are neither strings nor containers. -/
def parseAtom (s : Str) : Except PyError (Doc × Str) :=
  if let some r := dropLit [0x6E, 0x75, 0x6C, 0x6C] s then .ok (.null, r)  -- null
  else if let some r := dropLit [0x74, 0x72, 0x75, 0x65] s then .ok (.bool true, r)  -- true
  else if let some r := dropLit [0x66, 0x61, 0x6C, 0x73, 0x65] s then .ok (.bool false, r)  -- false
  else if let some r := dropLit [0x4E, 0x61, 0x4E] s then .ok (.nan, r)  -- NaN
  else if let some r := dropLit [0x49, 0x6E, 0x66, 0x69, 0x6E, 0x69, 0x74, 0x79] s then
    .ok (.inf false, r)  -- Infinity
  else if let some r := dropLit [0x2D, 0x49, 0x6E, 0x66, 0x69, 0x6E, 0x69, 0x74, 0x79] s then
    .ok (.inf true, r)  -- -Infinity
  else parseNumber s

mutual

/-- `scan_once`.  The fuel bounds the nesting; the length of the text is always enough. -/
def parseValue : Nat → Str → Except PyError (Doc × Str)
  | 0, _ => .error .jsonDecodeError
  | _ + 1, [] => .error .jsonDecodeError
  | fuel + 1, c :: s =>
    if c = 0x22 then
      match scanString s with
      | .ok (t, r) => .ok (.str t, r)
      | .error e => .error e
    else if c = 0x5B then
      match skipSpace s with
      | 0x5D :: r => .ok (.arr [], r)
      | s' =>
        match parseItems fuel s' with
        | .ok (ds, r) => .ok (.arr ds, r)
        | .error e => .error e
    else if c = 0x7B then
      match skipSpace s with
      | 0x7D :: r => .ok (.obj [], r)
      | s' =>
        match parseMembers fuel s' with
        | .ok (ms, r) => .ok (.obj ms, r)
        | .error e => .error e
    else parseAtom (c :: s)

/-- The items of a list, and its bracket. -/
def parseItems : Nat → Str → Except PyError (List Doc × Str)
  | 0, _ => .error .jsonDecodeError
  | fuel + 1, s =>
    match parseValue fuel s with
    | .error e => .error e
    | .ok (d, r) =>
      match skipSpace r with
      | 0x5D :: r' => .ok ([d], r')
      | 0x2C :: r' =>
        match parseItems fuel (skipSpace r') with
        | .ok (ds, r'') => .ok (d :: ds, r'')
        | .error e => .error e
      | _ => .error .jsonDecodeError

/-- The members of an object, and its brace. -/
def parseMembers : Nat → Str → Except PyError (List (Str × Doc) × Str)
  | 0, _ => .error .jsonDecodeError
  | fuel + 1, s =>
    match s with
    | 0x22 :: s' =>
      match scanString s' with
      | .error e => .error e
      | .ok (k, r) =>
        match skipSpace r with
        | 0x3A :: r' =>
          match parseValue fuel (skipSpace r') with
          | .error e => .error e
          | .ok (d, r'') =>
            match skipSpace r'' with
            | 0x7D :: q => .ok ([(k, d)], q)
            | 0x2C :: q =>
              match parseMembers fuel (skipSpace q) with
              | .ok (ms, q') => .ok ((k, d) :: ms, q')
              | .error e => .error e
            | _ => .error .jsonDecodeError
        | _ => .error .jsonDecodeError
    | _ => .error .jsonDecodeError

end

/-- `json.loads(s)`. -/
def loads (s : Str) : Except PyError Json :=
  match parseValue (s.length + 1) (skipSpace s) with
  | .error e => .error e
  | .ok (d, r) => if skipSpace r = [] then .ok d.value else .error .jsonDecodeError

/-! ## 5. The scanner reads back what was written -/

/-- A text whose head is not a space is left alone. -/
theorem skipSpace_cons {c : CodePoint} {s : Str} (h : isJsonSpace c = false) :
    skipSpace (c :: s) = c :: s := by simp [skipSpace, h]

theorem skipSpace_append {pad s : Str} (h : ∀ c ∈ pad, isJsonSpace c = true) :
    skipSpace (pad ++ s) = skipSpace s := by
  induction pad with
  | nil => rfl
  | cons c pad ih =>
    have hc := h c (by simp)
    rw [List.cons_append]
    simp only [skipSpace, List.dropWhile_cons, hc, ↓reduceIte] at ih ⊢
    exact ih (fun d hd => h d (by simp [hd]))

/-- How a written document starts: not with a space, and not with a closing bracket. -/
theorem NumTok.text_head {t : NumTok} (h : t.Ok) :
    ∃ c r, t.text = c :: r ∧ (c = 0x2D ∨ (digitVal c).isSome = true) ∧
      (c = 0x2D → ∃ d r', r = d :: r' ∧ (digitVal d).isSome = true) := by
  obtain ⟨d, ds, hds⟩ := List.exists_cons_of_ne_nil h.int_ne_nil
  have hd : (digitVal (digitChar d)).isSome = true := by
    rw [digitVal_digitChar (h.int_lt d (by simp [hds]))]; rfl
  cases hn : t.neg
  · refine ⟨digitChar d, _, by simp [NumTok.text, hn, hds, digitsText]; rfl, Or.inr hd, ?_⟩
    intro e
    rw [e] at hd
    exact absurd hd (by decide)
  · exact ⟨0x2D, _, by simp [NumTok.text, hn, hds, digitsText]; rfl, Or.inl rfl,
      fun _ => ⟨_, _, rfl, hd⟩⟩

theorem dropLit_ne {a b : CodePoint} {p s : Str} (h : a ≠ b) :
    dropLit (a :: p) (b :: s) = none := by
  simp [dropLit, h]

/-- A number is none of the literals. -/
theorem parseAtom_number {t : NumTok} (h : t.Ok) (r : Str) :
    parseAtom (t.text ++ r) = parseNumber (t.text ++ r) := by
  obtain ⟨c, s, hcs, hc, hminus⟩ := NumTok.text_head h
  have hne : ∀ a : CodePoint, a ≠ 0x2D → digitVal a = none → a ≠ c := by
    rintro a ha hd rfl
    rcases hc with hc | hc
    · exact ha hc
    · rw [hd] at hc; cases hc
  have hinf : dropLit [0x2D, 0x49, 0x6E, 0x66, 0x69, 0x6E, 0x69, 0x74, 0x79]
      (c :: (s ++ r)) = none := by
    by_cases he : c = 0x2D
    · obtain ⟨d, s', rfl, hd⟩ := hminus he
      have hI : (0x49 : CodePoint) ≠ d := by
        rintro rfl
        exact absurd hd (by decide)
      rw [he, List.cons_append]
      simp [dropLit, hI]
    · exact dropLit_ne (fun e => he e.symm)
  rw [hcs, List.cons_append]
  unfold parseAtom
  rw [dropLit_ne (hne _ (by decide) (by decide)), dropLit_ne (hne _ (by decide) (by decide)),
    dropLit_ne (hne _ (by decide) (by decide)), dropLit_ne (hne _ (by decide) (by decide)),
    dropLit_ne (hne _ (by decide) (by decide)), hinf]

theorem parseNumber_append {t : NumTok} {r : Str} (h : t.Ok)
    (hlen : t.int.length ≤ 4300) (hr : NumEnd r) :
    parseNumber (t.text ++ r) = .ok (.num t, r) := by
  have hnot : ¬ (t.isInt = true ∧ 4300 < t.int.length) := fun h => by omega
  simp only [parseNumber, readNumber_append h hr, hnot, ↓reduceIte]

/-- A way of writing strings: the text between the quotes, and what the scanner makes of it. -/
structure Quoting where
  body : Str → Str
  read : Str → Str
  scan : ∀ s r, scanString (body s ++ 0x22 :: r) = .ok (read s, r)

/-- `ensure_ascii=False` -/
def Quoting.plain : Quoting := ⟨fun s => s.flatMap escapeChar, id, scanString_append⟩

def Quoting.text (q : Quoting) (s : Str) : Str := 0x22 :: (q.body s ++ [0x22])

theorem Quoting.text_plain (s : Str) : Quoting.plain.text s = quote s := rfl

namespace Doc

mutual

/-- The text of a document, its strings written as `q` writes them and `pad` after each comma
and colon. -/
def render (q : Quoting) (pad : Str) : Doc → Str
  | .null => lit "null"
  | .bool true => lit "true"
  | .bool false => lit "false"
  | .num t => t.text
  | .nan => lit "NaN"
  | .inf false => lit "Infinity"
  | .inf true => lit "-Infinity"
  | .str s => q.text s
  | .arr [] => [0x5B, 0x5D]
  | .arr (d :: ds) => 0x5B :: (render q pad d ++ renderItems q pad ds)
  | .obj [] => [0x7B, 0x7D]
  | .obj ((k, d) :: ms) =>
    0x7B :: (q.text k ++ 0x3A :: (pad ++ (render q pad d ++ renderMembers q pad ms)))

/-- The items after the first, and the bracket. -/
def renderItems (q : Quoting) (pad : Str) : List Doc → Str
  | [] => [0x5D]
  | d :: ds => 0x2C :: (pad ++ (render q pad d ++ renderItems q pad ds))

/-- The members after the first, and the brace. -/
def renderMembers (q : Quoting) (pad : Str) : List (Str × Doc) → Str
  | [] => [0x7D]
  | (k, d) :: ms =>
    0x2C :: (pad ++ (q.text k ++ 0x3A ::
      (pad ++ (render q pad d ++ renderMembers q pad ms))))

end

mutual

/-- The document with its strings and keys as the scanner reads them. -/
def reread (f : Str → Str) : Doc → Doc
  | .str s => .str (f s)
  | .arr ds => .arr (rereadItems f ds)
  | .obj ms => .obj (rereadMembers f ms)
  | .null => .null
  | .bool b => .bool b
  | .num t => .num t
  | .nan => .nan
  | .inf neg => .inf neg

def rereadItems (f : Str → Str) : List Doc → List Doc
  | [] => []
  | d :: ds => reread f d :: rereadItems f ds

def rereadMembers (f : Str → Str) : List (Str × Doc) → List (Str × Doc)
  | [] => []
  | (k, d) :: ms => (f k, reread f d) :: rereadMembers f ms

end

mutual

theorem reread_id : ∀ d : Doc, d.reread id = d
  | .str _ => rfl
  | .arr ds => congrArg Doc.arr (rereadItems_id ds)
  | .obj ms => congrArg Doc.obj (rereadMembers_id ms)
  | .null => rfl
  | .bool _ => rfl
  | .num _ => rfl
  | .nan => rfl
  | .inf _ => rfl

theorem rereadItems_id : ∀ ds : List Doc, rereadItems id ds = ds
  | [] => rfl
  | d :: ds => by rw [rereadItems, reread_id d, rereadItems_id ds]

theorem rereadMembers_id : ∀ ms : List (Str × Doc), rereadMembers id ms = ms
  | [] => rfl
  | (k, d) :: ms => by rw [rereadMembers, reread_id d, rereadMembers_id ms]; rfl

end

end Doc

/-- The head of a written document is no space, and no closing bracket. -/
theorem Doc.render_head (q : Quoting) (pad : Str) {d : Doc} (h : d.Ok) :
    ∃ c s, d.render q pad = c :: s ∧ isJsonSpace c = false ∧ c ≠ 0x5D := by
  cases d with
  | null => exact ⟨_, _, rfl, by decide, by decide⟩
  | bool b => cases b <;> exact ⟨_, _, rfl, by decide, by decide⟩
  | num t =>
    simp only [Doc.Ok] at h
    obtain ⟨c, s, hcs, hc, -⟩ := NumTok.text_head h.1
    refine ⟨c, s, hcs, ?_, ?_⟩
    · rcases hc with rfl | hc
      · decide
      · by_contra hsp
        have hsp' : c = 0x20 ∨ c = 0x09 ∨ c = 0x0A ∨ c = 0x0D := by
          simp only [isJsonSpace, Bool.not_eq_false, Bool.or_eq_true, decide_eq_true_eq] at hsp
          tauto
        rcases hsp' with rfl | rfl | rfl | rfl <;> exact absurd hc (by decide)
    · rintro rfl
      rcases hc with hc | hc <;> exact absurd hc (by decide)
  | nan => exact ⟨_, _, rfl, by decide, by decide⟩
  | inf neg => cases neg <;> exact ⟨_, _, rfl, by decide, by decide⟩
  | str s => exact ⟨_, _, rfl, by decide, by decide⟩
  | arr ds => cases ds <;> exact ⟨_, _, rfl, by decide, by decide⟩
  | obj ms =>
    cases ms with
    | nil => exact ⟨_, _, rfl, by decide, by decide⟩
    | cons p ms => obtain ⟨k, d⟩ := p; exact ⟨_, _, rfl, by decide, by decide⟩

/-- The items of a list without its opening bracket. -/
def Doc.itemsText (q : Quoting) (pad : Str) : List Doc → Str
  | [] => []
  | d :: ds => d.render q pad ++ renderItems q pad ds

/-- The members of an object without its opening brace. -/
def Doc.membersText (q : Quoting) (pad : Str) : List (Str × Doc) → Str
  | [] => []
  | (k, d) :: ms =>
    q.text k ++ 0x3A :: (pad ++ (d.render q pad ++ renderMembers q pad ms))

theorem numEnd_renderItems (q : Quoting) (pad : Str) (ds : List Doc) (r : Str) :
    NumEnd (Doc.renderItems q pad ds ++ r) := by
  cases ds <;> exact numEnd_cons (by decide) (by decide) (by decide) (by decide)

theorem numEnd_renderMembers (q : Quoting) (pad : Str) (ms : List (Str × Doc)) (r : Str) :
    NumEnd (Doc.renderMembers q pad ms ++ r) := by
  rcases ms with _ | ⟨⟨k, d⟩, ms⟩ <;>
    exact numEnd_cons (by decide) (by decide) (by decide) (by decide)

theorem skipSpace_render (q : Quoting) {pad : Str}
    (hpad : ∀ c ∈ pad, isJsonSpace c = true) {d : Doc} (h : d.Ok) (s : Str) :
    skipSpace (pad ++ (d.render q pad ++ s)) = d.render q pad ++ s := by
  obtain ⟨c, t, ht, hc, -⟩ := Doc.render_head q pad h
  rw [skipSpace_append hpad, ht, List.cons_append, skipSpace_cons hc]

theorem Quoting.text_append (q : Quoting) (s r : Str) :
    q.text s ++ r = 0x22 :: (q.body s ++ 0x22 :: r) := by
  simp [Quoting.text]

theorem quote_append (s r : Str) : quote s ++ r = 0x22 :: (s.flatMap escapeChar ++ 0x22 :: r) := by
  simp [quote]

set_option linter.unusedSectionVars false

section Reading

variable (q : Quoting) {pad : Str} (hpad : ∀ c ∈ pad, isJsonSpace c = true)

include hpad

mutual

/-- The scanner reads a written document, its strings as it reads them, and stops where the
document ends. -/
theorem parseValue_render : ∀ (d : Doc) (fuel : Nat) (r : Str), d.Ok → d.cost ≤ fuel →
    NumEnd r → parseValue fuel (d.render q pad ++ r) = .ok (d.reread q.read, r)
  | d, 0, r, _, hf, _ => by cases d <;> simp [Doc.cost] at hf
  | .null, fuel + 1, r, _, _, _ => rfl
  | .bool true, fuel + 1, r, _, _, _ => rfl
  | .bool false, fuel + 1, r, _, _, _ => rfl
  | .nan, fuel + 1, r, _, _, _ => rfl
  | .inf true, fuel + 1, r, _, _, _ => rfl
  | .inf false, fuel + 1, r, _, _, _ => rfl
  | .num t, fuel + 1, r, hok, _, hr => by
    simp only [Doc.Ok] at hok
    obtain ⟨c, s, hcs, hc, -⟩ := NumTok.text_head hok.1
    have hne : ∀ a : CodePoint, a ≠ 0x2D → digitVal a = none → c ≠ a := by
      rintro a ha hd rfl
      rcases hc with hc | hc
      · exact ha hc
      · rw [hd] at hc; cases hc
    have hat := parseAtom_number hok.1 r
    rw [parseNumber_append hok.1 hok.2 hr, hcs, List.cons_append] at hat
    rw [Doc.render, hcs, List.cons_append, parseValue, if_neg (hne _ (by decide) (by decide)),
      if_neg (hne _ (by decide) (by decide)), if_neg (hne _ (by decide) (by decide)), hat]
    rfl
  | .str s, fuel + 1, r, _, _, _ => by
    rw [Doc.render, Quoting.text_append, parseValue, if_pos rfl, q.scan]
    rfl
  | .arr [], fuel + 1, r, _, _, _ => rfl
  | .arr (d :: ds), fuel + 1, r, hok, hf, hr => by
    simp only [Doc.Ok] at hok
    simp only [Doc.cost] at hf
    have hitems := parseItems_render (d :: ds) fuel r hok (by omega) (by simp)
    obtain ⟨c, t, ht, hc, hc'⟩ := Doc.render_head q pad hok.1
    simp only [Doc.itemsText, ht, List.append_assoc, List.cons_append] at hitems
    simp only [Doc.render, List.cons_append, List.append_assoc, ht]
    rw [parseValue, if_neg (by decide), if_pos rfl, skipSpace_cons hc]
    split
    · rename_i h; cases h; exact absurd rfl hc'
    · rw [hitems]
      rfl
  | .obj [], fuel + 1, r, _, _, _ => rfl
  | .obj ((k, d) :: ms), fuel + 1, r, hok, hf, hr => by
    simp only [Doc.Ok] at hok
    simp only [Doc.cost] at hf
    have hmembers := parseMembers_render ((k, d) :: ms) fuel r hok (by omega) (by simp)
    simp only [Doc.membersText, Quoting.text_append, List.append_assoc,
      List.cons_append] at hmembers
    simp only [Doc.render, Quoting.text_append, List.cons_append, List.append_assoc]
    rw [parseValue, if_neg (by decide), if_neg (by decide), if_pos rfl,
      skipSpace_cons (by decide)]
    simp only [hmembers]
    rfl

theorem parseItems_render : ∀ (ds : List Doc) (fuel : Nat) (r : Str), Doc.OkItems ds →
    Doc.costItems ds ≤ fuel → ds ≠ [] →
    parseItems fuel (Doc.itemsText q pad ds ++ r) = .ok (Doc.rereadItems q.read ds, r)
  | [], _, _, _, _, hne => absurd rfl hne
  | d :: ds, 0, r, _, hf, _ => by simp only [Doc.costItems] at hf; omega
  | d :: ds, fuel + 1, r, hok, hf, _ => by
    simp only [Doc.costItems] at hf
    have hd := parseValue_render d fuel (Doc.renderItems q pad ds ++ r) hok.1 (by omega)
      (numEnd_renderItems q pad ds r)
    rw [Doc.itemsText, List.append_assoc, parseItems, hd]
    cases ds with
    | nil => rfl
    | cons e es =>
      have hes := parseItems_render (e :: es) fuel r hok.2 (by omega) (by simp)
      have hsk := skipSpace_render q hpad hok.2.1 (Doc.renderItems q pad es ++ r)
      simp only [Doc.itemsText, List.append_assoc] at hes
      simp only [Doc.renderItems, List.cons_append, List.append_assoc]
      rw [skipSpace_cons (by decide)]
      simp only [hsk, hes]
      rfl

theorem parseMembers_render : ∀ (ms : List (Str × Doc)) (fuel : Nat) (r : Str),
    Doc.OkMembers ms → Doc.costMembers ms ≤ fuel → ms ≠ [] →
    parseMembers fuel (Doc.membersText q pad ms ++ r) = .ok (Doc.rereadMembers q.read ms, r)
  | [], _, _, _, _, hne => absurd rfl hne
  | (k, d) :: ms, 0, r, _, hf, _ => by simp only [Doc.costMembers] at hf; omega
  | (k, d) :: ms, fuel + 1, r, hok, hf, _ => by
    simp only [Doc.costMembers] at hf
    have hd := parseValue_render d fuel (Doc.renderMembers q pad ms ++ r) hok.1 (by omega)
      (numEnd_renderMembers q pad ms r)
    have hskd := skipSpace_render q hpad hok.1 (Doc.renderMembers q pad ms ++ r)
    simp only [Doc.membersText, Quoting.text_append, List.append_assoc, List.cons_append]
    rw [parseMembers]
    simp only [q.scan]
    rw [skipSpace_cons (by decide)]
    simp only [hskd, hd]
    cases ms with
    | nil => rfl
    | cons p ms' =>
      obtain ⟨k', d'⟩ := p
      have hms := parseMembers_render ((k', d') :: ms') fuel r hok.2 (by omega) (by simp)
      simp only [Doc.membersText, Quoting.text_append, List.append_assoc,
        List.cons_append] at hms
      simp only [Doc.renderMembers, Quoting.text_append, List.cons_append, List.append_assoc]
      rw [skipSpace_cons (by decide)]
      simp only [skipSpace_append hpad]
      rw [skipSpace_cons (by decide), hms]
      rfl

end

end Reading

/-- The scanner reads back a document written with `ensure_ascii=False`, and stops where it
ends. -/
theorem parseValue_render_plain {pad : Str} (hpad : ∀ c ∈ pad, isJsonSpace c = true) (d : Doc)
    (fuel : Nat) (r : Str) (hok : d.Ok) (hf : d.cost ≤ fuel) (hr : NumEnd r) :
    parseValue fuel (d.render .plain pad ++ r) = .ok (d, r) := by
  have h := parseValue_render .plain hpad d fuel r hok hf hr
  rwa [show Quoting.plain.read = id from rfl, d.reread_id] at h

/-! ## 6. Whole documents -/

theorem NumTok.text_length_pos {t : NumTok} (h : t.Ok) : 0 < t.text.length := by
  obtain ⟨c, r, hcr, -⟩ := NumTok.text_head h
  simp [hcr]

theorem Quoting.text_length (q : Quoting) (s : Str) : 2 ≤ (q.text s).length := by
  simp [Quoting.text]

section Cost

variable (q : Quoting) (pad : Str)

mutual

/-- The length of the text pays for the fuel. -/
theorem Doc.cost_le_length : ∀ d : Doc, d.Ok → d.cost ≤ (d.render q pad).length
  | .null, _ => by simp [Doc.cost, Doc.render, lit]
  | .bool true, _ => by simp [Doc.cost, Doc.render, lit]
  | .bool false, _ => by simp [Doc.cost, Doc.render, lit]
  | .nan, _ => by simp [Doc.cost, Doc.render, lit]
  | .inf true, _ => by simp [Doc.cost, Doc.render, lit]
  | .inf false, _ => by simp [Doc.cost, Doc.render, lit]
  | .num t, h => by
    simp only [Doc.Ok] at h
    have := NumTok.text_length_pos h.1
    simp only [Doc.cost, Doc.render]; omega
  | .str s, _ => by
    have := q.text_length s
    simp only [Doc.cost, Doc.render]; omega
  | .arr [], _ => by simp [Doc.cost, Doc.costItems, Doc.render]
  | .arr (d :: ds), h => by
    simp only [Doc.Ok] at h
    have h1 := Doc.cost_le_length d h.1
    have h2 := Doc.costItems_le_length ds h.2
    simp only [Doc.cost, Doc.costItems, Doc.render, List.length_cons, List.length_append]
    omega
  | .obj [], _ => by simp [Doc.cost, Doc.costMembers, Doc.render]
  | .obj ((k, d) :: ms), h => by
    simp only [Doc.Ok] at h
    have h1 := Doc.cost_le_length d h.1
    have h2 := Doc.costMembers_le_length ms h.2
    simp only [Doc.cost, Doc.costMembers, Doc.render, List.length_cons, List.length_append]
    omega

theorem Doc.costItems_le_length : ∀ ds : List Doc, Doc.OkItems ds →
    Doc.costItems ds + 1 ≤ (Doc.renderItems q pad ds).length
  | [], _ => by simp [Doc.costItems, Doc.renderItems]
  | d :: ds, h => by
    have h1 := Doc.cost_le_length d h.1
    have h2 := Doc.costItems_le_length ds h.2
    simp only [Doc.costItems, Doc.renderItems, List.length_cons, List.length_append]
    omega

theorem Doc.costMembers_le_length : ∀ ms : List (Str × Doc), Doc.OkMembers ms →
    Doc.costMembers ms + 1 ≤ (Doc.renderMembers q pad ms).length
  | [], _ => by simp [Doc.costMembers, Doc.renderMembers]
  | (k, d) :: ms, h => by
    have h1 := Doc.cost_le_length d h.1
    have h2 := Doc.costMembers_le_length ms h.2
    simp only [Doc.costMembers, Doc.renderMembers, List.length_cons, List.length_append]
    omega

end

end Cost

section Documents

variable {pad : Str} (hpad : ∀ c ∈ pad, isJsonSpace c = true)

include hpad

/-- Reading a written document gives the value of what the scanner makes of it. -/
theorem loads_render (q : Quoting) {d : Doc} (h : d.Ok) :
    loads (d.render q pad) = .ok (d.reread q.read).value := by
  obtain ⟨c, t, ht, hc, -⟩ := Doc.render_head q pad h
  have hread := parseValue_render q hpad d ((d.render q pad).length + 1) [] h
    (Nat.le_succ_of_le (Doc.cost_le_length q pad d h)) numEnd_nil
  have hskip : skipSpace (d.render q pad) = d.render q pad := by rw [ht, skipSpace_cons hc]
  rw [List.append_nil] at hread
  rw [loads, hskip, hread]
  rfl

/-- Reading a document written with `ensure_ascii=False` gives its value. -/
theorem loads_render_plain {d : Doc} (h : d.Ok) : loads (d.render .plain pad) = .ok d.value := by
  have hread := loads_render hpad .plain h
  rwa [show Quoting.plain.read = id from rfl, d.reread_id] at hread

/-- A document is determined by its text. -/
theorem render_injective {d e : Doc} (hd : d.Ok) (he : e.Ok)
    (h : d.render .plain pad = e.render .plain pad) : d = e := by
  have h1 := parseValue_render_plain hpad d (d.cost + e.cost) [] hd (by omega) numEnd_nil
  have h2 := parseValue_render_plain hpad e (d.cost + e.cost) [] he (by omega) numEnd_nil
  rw [h, h2] at h1
  cases h1
  rfl

end Documents

/-- A blank line is no JSON text. -/
theorem loads_blank {s : Str} (h : ∀ c ∈ s, isSpace c = true) (v : Json) : loads s ≠ .ok v := by
  intro hv
  unfold loads at hv
  cases hskip : skipSpace s with
  | nil => rw [hskip] at hv; cases hv
  | cons c r =>
    have hmem : c ∈ skipSpace s := by rw [hskip]; exact List.mem_cons_self
    have hc : isSpace c = true := h c ((List.dropWhile_sublist _).subset hmem)
    have hne : ∀ a, isSpace a = false → a ≠ c := by
      rintro a ha rfl
      rw [hc] at ha
      cases ha
    have hdigit : digitVal c = none := by
      unfold digitVal
      split
      · rename_i hd
        simp only [Bool.and_eq_true, decide_eq_true_eq] at hd
        simp only [isSpace, Bool.or_eq_true, Bool.and_eq_true, decide_eq_true_eq,
          beq_iff_eq] at hc
        omega
      · rfl
    have hnumber : parseNumber (c :: r) = .error .jsonDecodeError := by
      have hminus : readMinus (c :: r) = (false, c :: r) := by
        simp [readMinus, (hne 0x2D (by decide)).symm]
      have hint : readInt (c :: r) = none := by
        have hnil := readDigits_of_noDigit (noDigit_cons hdigit (s := r))
        simp [readInt, (hne 0x30 (by decide)).symm, hnil]
      simp [parseNumber, readNumber, hminus, hint]
    have hatom : parseAtom (c :: r) = parseNumber (c :: r) := by
      unfold parseAtom
      rw [dropLit_ne (hne _ (by decide)), dropLit_ne (hne _ (by decide)),
        dropLit_ne (hne _ (by decide)), dropLit_ne (hne _ (by decide)),
        dropLit_ne (hne _ (by decide)), dropLit_ne (hne _ (by decide))]
    rw [hskip, parseValue, if_neg (hne _ (by decide)).symm, if_neg (hne _ (by decide)).symm,
      if_neg (hne _ (by decide)).symm, hatom, hnumber] at hv
    cases hv

namespace Doc

mutual

/-- What the decoder builds holds each key once. -/
theorem value_wf : ∀ d : Doc, d.value.Wf
  | .null => rfl
  | .bool _ => rfl
  | .num t => by unfold value; split <;> rfl
  | .nan => rfl
  | .inf _ => rfl
  | .str _ => rfl
  | .arr ds => Json.wf_arr.mpr (itemsValue_wf ds)
  | .obj ms => Json.wf_obj.mpr ⟨Dict.nodup_ofPairs _,
      fun p hp => membersValue_wf ms p (Dict.mem_ofPairs hp)⟩

theorem itemsValue_wf : ∀ ds : List Doc, ∀ v ∈ itemsValue ds, v.Wf
  | [], _, h => nomatch h
  | d :: _, _, .head _ => value_wf d
  | _ :: ds, v, .tail _ h => itemsValue_wf ds v h

theorem membersValue_wf : ∀ ms : List (Str × Doc), ∀ p ∈ membersValue ms, p.2.Wf
  | [], _, h => nomatch h
  | (_, d) :: _, _, .head _ => value_wf d
  | (_, _) :: ms, p, .tail _ h => membersValue_wf ms p h

end

end Doc

theorem loads_wf {s : Str} {v : Json} (h : loads s = .ok v) : v.Wf := by
  unfold loads at h
  split at h
  · cases h
  · split at h
    · cases h; exact Doc.value_wf _
    · cases h

/-! ## 7. The characters of a document

What a writer adds to the strings of a document is printable ASCII, so whether a text avoids
some character is decided by its strings. -/

namespace Doc

mutual

/-- The strings and the keys of a document. -/
def strings : Doc → List Str
  | .arr ds => stringsItems ds
  | .obj ms => stringsMembers ms
  | .str s => [s]
  | .null => []
  | .bool _ => []
  | .num _ => []
  | .nan => []
  | .inf _ => []

def stringsItems : List Doc → List Str
  | [] => []
  | d :: ds => strings d ++ stringsItems ds

def stringsMembers : List (Str × Doc) → List Str
  | [] => []
  | (k, d) :: ms => k :: (strings d ++ stringsMembers ms)

end

theorem mem_strings_arr {ds : List Doc} {s : Str} :
    s ∈ (arr ds).strings ↔ ∃ d ∈ ds, s ∈ d.strings := by
  rw [strings]
  induction ds with
  | nil => simp [stringsItems]
  | cons d ds ih => simp [stringsItems, ih]

theorem mem_strings_obj {ms : List (Str × Doc)} {s : Str} :
    s ∈ (obj ms).strings ↔ ∃ p ∈ ms, s = p.1 ∨ s ∈ p.2.strings := by
  rw [strings]
  induction ms with
  | nil => simp [stringsMembers]
  | cons p ms ih =>
    obtain ⟨k, d⟩ := p
    simp only [stringsMembers, List.mem_cons, List.mem_append, ih, exists_eq_or_imp, or_assoc]

end Doc

/-- A test of characters that the printable ASCII ones pass; `raw` is what it comes to for the
characters of a string, of which the control characters are escaped. -/
structure CharTest (test raw : CodePoint → Bool) : Prop where
  ascii : ∀ c, 0x20 ≤ c.val → c.val < 0x7F → test c = true
  plain : ∀ c, 0x20 ≤ c.val → test c = raw c
  control : ∀ c, c.val < 0x20 → raw c = true

/-- Every character passes. -/
def AllChars (test : CodePoint → Bool) (s : Str) : Prop := ∀ c ∈ s, test c = true

instance (test : CodePoint → Bool) (s : Str) : Decidable (AllChars test s) :=
  List.decidableBAll _ s

section AllChars

variable {test raw : CodePoint → Bool}

theorem allChars_nil : AllChars test [] := fun _ h => nomatch h

theorem allChars_cons {c : CodePoint} {s : Str} :
    AllChars test (c :: s) ↔ test c = true ∧ AllChars test s := by simp [AllChars]

theorem allChars_append {s t : Str} :
    AllChars test (s ++ t) ↔ AllChars test s ∧ AllChars test t := by
  simp [AllChars, or_imp, forall_and]

theorem hexChar_ascii : ∀ d, d < 16 → 0x20 ≤ (hexChar d).val ∧ (hexChar d).val < 0x7F := by decide

variable (ht : CharTest test raw)

include ht

theorem CharTest.raw_ascii {c : CodePoint} (h : c.val < 0x7F) : raw c = true := by
  by_cases hc : c.val < 0x20
  · exact ht.control c hc
  · rw [← ht.plain c (by omega)]
    exact ht.ascii c (by omega) h

theorem allChars_ascii {s : Str} (h : s.all (fun c => 0x20 ≤ c.val && c.val < 0x7F) = true) :
    AllChars test s := by
  intro c hc
  have := List.all_eq_true.mp h c hc
  simp only [Bool.and_eq_true, decide_eq_true_eq] at this
  exact ht.ascii c this.1 this.2

theorem allChars_escapeChar (c : CodePoint) :
    AllChars test (escapeChar c) ↔ raw c = true := by
  have hasc : ∀ {s : Str}, c.val < 0x7F →
      s.all (fun c => 0x20 ≤ c.val && c.val < 0x7F) = true → (AllChars test s ↔ raw c = true) :=
    fun hc hs => iff_of_true (allChars_ascii ht hs) (ht.raw_ascii hc)
  unfold escapeChar
  split
  · rename_i h; subst h; exact hasc (by decide) (by decide)
  split
  · rename_i h; subst h; exact hasc (by decide) (by decide)
  split
  · rename_i h; subst h; exact hasc (by decide) (by decide)
  split
  · rename_i h; subst h; exact hasc (by decide) (by decide)
  split
  · rename_i h; subst h; exact hasc (by decide) (by decide)
  split
  · rename_i h; subst h; exact hasc (by decide) (by decide)
  split
  · rename_i h; subst h; exact hasc (by decide) (by decide)
  split
  · rename_i h
    refine hasc (by omega) ?_
    have h1 := hexChar_ascii (c.val / 16) (by omega)
    have h2 := hexChar_ascii (c.val % 16) (by omega)
    simp [h1, h2]
  · rename_i h
    rw [allChars_cons, ht.plain c (by omega)]
    simp [allChars_nil]

theorem allChars_quote (s : Str) : AllChars test (quote s) ↔ AllChars raw s := by
  have hbody : AllChars test (s.flatMap escapeChar) ↔ AllChars raw s := by
    induction s with
    | nil => simp [AllChars]
    | cons c s ih => simp [allChars_append, ih, allChars_escapeChar ht, allChars_cons]
  rw [quote, allChars_cons, allChars_append, hbody]
  have h1 : test 0x22 = true := ht.ascii _ (by decide) (by decide)
  simp [h1, allChars_cons, allChars_nil]

theorem allChars_digitsText {ds : List Nat} (h : ∀ d ∈ ds, d < 10) :
    AllChars test (digitsText ds) := by
  have hd : ∀ d, d < 10 → 0x20 ≤ (digitChar d).val ∧ (digitChar d).val < 0x7F := by decide
  intro c hc
  obtain ⟨d, hd', rfl⟩ := List.mem_map.mp hc
  exact ht.ascii _ (hd d (h d hd')).1 (hd d (h d hd')).2

theorem allChars_numTok {t : NumTok} (h : t.Ok) : AllChars test t.text := by
  obtain ⟨neg, int, frac, exp⟩ := t
  have hfrac : AllChars test (NumTok.fracText frac) := by
    cases frac with
    | nil => exact allChars_nil
    | cons d ds =>
      rw [NumTok.fracText, allChars_cons]
      exact ⟨ht.ascii _ (by decide) (by decide), allChars_digitsText ht h.frac_lt⟩
  have hexp : AllChars test (NumTok.expText exp) := by
    cases exp with
    | none => exact allChars_nil
    | some p =>
      obtain ⟨n, ds⟩ := p
      rw [NumTok.expText, allChars_cons, allChars_cons]
      refine ⟨ht.ascii _ (by decide) (by decide), ?_,
        allChars_digitsText ht (h.exp_ok _ rfl).2⟩
      cases n <;> exact ht.ascii _ (by decide) (by decide)
  simp only [NumTok.text, allChars_append]
  refine ⟨?_, allChars_digitsText ht h.int_lt, hfrac, hexp⟩
  cases neg
  · exact allChars_nil
  · exact allChars_ascii ht rfl

variable {pad : Str} (hpad : AllChars test pad)

include hpad

mutual

/-- The characters of a text are those of its strings, as far as the test can see. -/
theorem allChars_render : ∀ d : Doc, d.Ok →
    (AllChars test (d.render .plain pad) ↔ ∀ s ∈ d.strings, AllChars raw s)
  | .null, _ => iff_of_true (allChars_ascii ht rfl) (fun _ h => nomatch h)
  | .bool true, _ => iff_of_true (allChars_ascii ht rfl) (fun _ h => nomatch h)
  | .bool false, _ => iff_of_true (allChars_ascii ht rfl) (fun _ h => nomatch h)
  | .nan, _ => iff_of_true (allChars_ascii ht rfl) (fun _ h => nomatch h)
  | .inf true, _ => iff_of_true (allChars_ascii ht rfl) (fun _ h => nomatch h)
  | .inf false, _ => iff_of_true (allChars_ascii ht rfl) (fun _ h => nomatch h)
  | .num t, h => iff_of_true (allChars_numTok ht h.1) (fun _ h => nomatch h)
  | .str s, _ => by simp [Doc.render, Quoting.text_plain, Doc.strings, allChars_quote ht]
  | .arr [], _ => iff_of_true (allChars_ascii ht rfl) (fun _ h => nomatch h)
  | .arr (d :: ds), h => by
    have h1 : test 0x5B = true := ht.ascii _ (by decide) (by decide)
    simp only [Doc.render, allChars_cons, allChars_append, h1, true_and, Doc.strings,
      Doc.stringsItems, List.mem_append, or_imp, forall_and, allChars_render d h.1,
      allChars_renderItems ds h.2]
  | .obj [], _ => iff_of_true (allChars_ascii ht rfl) (fun _ h => nomatch h)
  | .obj ((k, d) :: ms), h => by
    have h1 : test 0x7B = true := ht.ascii _ (by decide) (by decide)
    have h2 : test 0x3A = true := ht.ascii _ (by decide) (by decide)
    simp only [Doc.render, allChars_cons, allChars_append, h1, h2, hpad, true_and, Doc.strings,
      Doc.stringsMembers, List.mem_cons, List.mem_append, or_imp, forall_and, forall_eq,
      Quoting.text_plain, allChars_quote ht, allChars_render d h.1, allChars_renderMembers ms h.2]

theorem allChars_renderItems : ∀ ds : List Doc, Doc.OkItems ds →
    (AllChars test (Doc.renderItems .plain pad ds) ↔ ∀ s ∈ Doc.stringsItems ds, AllChars raw s)
  | [], _ => iff_of_true (allChars_ascii ht rfl) (fun _ h => nomatch h)
  | d :: ds, h => by
    have h1 : test 0x2C = true := ht.ascii _ (by decide) (by decide)
    simp only [Doc.renderItems, allChars_cons, allChars_append, h1, hpad, true_and,
      Doc.stringsItems, List.mem_append, or_imp, forall_and, allChars_render d h.1,
      allChars_renderItems ds h.2]

theorem allChars_renderMembers : ∀ ms : List (Str × Doc), Doc.OkMembers ms →
    (AllChars test (Doc.renderMembers .plain pad ms) ↔ ∀ s ∈ Doc.stringsMembers ms, AllChars raw s)
  | [], _ => iff_of_true (allChars_ascii ht rfl) (fun _ h => nomatch h)
  | (k, d) :: ms, h => by
    have h1 : test 0x2C = true := ht.ascii _ (by decide) (by decide)
    have h2 : test 0x3A = true := ht.ascii _ (by decide) (by decide)
    simp only [Doc.renderMembers, allChars_cons, allChars_append, h1, h2, hpad, true_and,
      Doc.stringsMembers, List.mem_cons, List.mem_append, or_imp, forall_and, forall_eq,
      Quoting.text_plain, allChars_quote ht, allChars_render d h.1, allChars_renderMembers ms h.2]

end

end AllChars

end Axg.Python
