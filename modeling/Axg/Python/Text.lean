/-
# Python text

A Python `str` is a sequence of code points, and a JSON document can put a lone surrogate in
one (the escape of U+D800), so `Str` keeps all of `0 .. 0x10FFFF` and the encoders fail on the
surrogates, as `str.encode` does.  Lean's `Char` leaves them out.

The other functions here are the pieces of `str` that the programs under study lean on and
whose exact character classes matter to them: `splitlines` knows ten line boundaries and not
one, and `strip` knows every Unicode space.
-/
import Mathlib.Algebra.GroupWithZero.Nat
import Mathlib.Data.List.DropRight
import Mathlib.Data.List.Sort
import Mathlib.Data.List.TakeWhile

namespace Axg.Python

/-! ## 1. Code points and exceptions -/

/-- One element of a Python `str`. -/
abbrev CodePoint := Fin 0x110000

instance CodePoint.neZero : NeZero 0x110000 := ⟨Nat.succ_ne_zero 0x10FFFF⟩

abbrev Str := List CodePoint

/-- A Python `bytes`. -/
abbrev Bytes := List UInt8

/-- The exceptions a modelled function can raise.  `JSONDecodeError` and `UnicodeEncodeError`
are subclasses of `ValueError` in Python; `isValueError` records it for the handlers. -/
inductive PyError
  | valueError
  | jsonDecodeError
  | unicodeEncodeError
  | overflowError
  | typeError
  | attributeError
  /-- An exception of another class, such as `http.client.RemoteDisconnected`. -/
  | other
deriving DecidableEq, Repr

/-- Does `except ValueError` catch it? -/
def PyError.isValueError : PyError → Bool
  | valueError | jsonDecodeError | unicodeEncodeError => true
  | overflowError | typeError | attributeError | other => false

section Sequencing

variable {ε α β : Type} {f : α → Except ε β} {g : α → β}

@[simp] theorem ok_bind (a : α) (k : α → Except ε β) : (Except.ok a >>= k) = k a := rfl

@[simp] theorem error_bind (e : ε) (k : α → Except ε β) :
    ((Except.error e : Except ε α) >>= k) = .error e := rfl

/-- A computation that succeeds has a first step that succeeds. -/
theorem bind_eq_ok {x : Except ε α} {k : α → Except ε β} {b : β} (h : x >>= k = .ok b) :
    ∃ a, x = .ok a ∧ k a = .ok b := by
  cases x with
  | error e => cases h
  | ok a => exact ⟨a, rfl, h⟩

/-- A computation that fails does so at its first step, or after it. -/
theorem bind_eq_error {x : Except ε α} {k : α → Except ε β} {e : ε} (h : x >>= k = .error e) :
    x = .error e ∨ ∃ a, x = .ok a ∧ k a = .error e := by
  cases x with
  | error e => cases h; exact .inl rfl
  | ok a => exact .inr ⟨a, rfl, h⟩

theorem exists_ok_of_isOk {x : Except ε α} (h : x.isOk = true) : ∃ a, x = .ok a := by
  cases x with
  | error e => cases h
  | ok a => exact ⟨a, rfl⟩

theorem mapM_ok {xs : List α} (h : ∀ a ∈ xs, f a = .ok (g a)) : xs.mapM f = .ok (xs.map g) := by
  induction xs with
  | nil => rfl
  | cons a xs ih =>
    rw [List.mapM_cons, h a (by simp), ih (fun b hb => h b (by simp [hb]))]
    rfl

/-- A sequence of computations that succeeds has succeeded at each of them. -/
theorem mapM_eq_ok {xs : List α} {ys : List β} (h : xs.mapM f = .ok ys) :
    List.Forall₂ (fun a b => f a = .ok b) xs ys := by
  induction xs generalizing ys with
  | nil => cases h; exact .nil
  | cons a xs ih =>
    rw [List.mapM_cons] at h
    cases ha : f a with
    | error e => rw [ha] at h; cases h
    | ok b =>
      cases hxs : xs.mapM f with
      | error e => rw [ha, hxs] at h; cases h
      | ok bs =>
        rw [ha, hxs] at h
        cases h
        exact .cons ha (ih hxs)

/-- Computations that all succeed succeed as a sequence. -/
theorem mapM_of_forall₂ {xs : List α} {ys : List β}
    (h : List.Forall₂ (fun a b => f a = .ok b) xs ys) : xs.mapM f = .ok ys := by
  induction h with
  | nil => rfl
  | cons hb _ ih =>
    rw [List.mapM_cons, hb, ih]
    rfl

theorem exists_of_mem_forall₂ {r : α → β → Prop} {xs : List α} {ys : List β}
    (h : List.Forall₂ r xs ys) {a : α} (ha : a ∈ xs) : ∃ b ∈ ys, r a b := by
  obtain ⟨i, hi, rfl⟩ := List.getElem_of_mem ha
  have hj : i < ys.length := h.length_eq ▸ hi
  exact ⟨ys[i], List.getElem_mem hj, h.get hi hj⟩

/-- A step that succeeds in a sequence that succeeds. -/
theorem exists_of_mapM_eq_ok {xs : List α} {ys : List β} (h : xs.mapM f = .ok ys) {a : α}
    (ha : a ∈ xs) : ∃ b ∈ ys, f a = .ok b :=
  exists_of_mem_forall₂ (mapM_eq_ok h) ha

end Sequencing

def CodePoint.ofChar (c : Char) : CodePoint := Fin.ofNat 0x110000 c.toNat

/-- A literal of the source. -/
def lit (s : String) : Str := s.toList.map CodePoint.ofChar

instance : Coe String Str := ⟨lit⟩

/-! ## 2. Encoders -/

def isSurrogate (c : CodePoint) : Bool := 0xD800 ≤ c.val && c.val ≤ 0xDFFF

/-- No lone surrogates: the string is Unicode text. -/
def IsScalar (s : Str) : Prop := ∀ c ∈ s, isSurrogate c = false

instance (s : Str) : Decidable (IsScalar s) := List.decidableBAll _ s

theorem isScalar_append {s t : Str} : IsScalar (s ++ t) ↔ IsScalar s ∧ IsScalar t := by
  simp [IsScalar, or_imp, forall_and]

theorem isScalar_cons {c : CodePoint} {s : Str} :
    IsScalar (c :: s) ↔ isSurrogate c = false ∧ IsScalar s := by
  simp [IsScalar]

/-- `s.encode("utf-8")`, kept as text: the encoding is injective, so all that a caller sees of
it is whether it fails. -/
def encodeUtf8 (s : Str) : Except PyError Str :=
  if s.any isSurrogate then .error .unicodeEncodeError else .ok s

theorem encodeUtf8_of_isScalar {s : Str} (h : IsScalar s) : encodeUtf8 s = .ok s := by
  have hs : s.any isSurrogate = false := by simpa [IsScalar] using h
  simp [encodeUtf8, hs]

theorem encodeUtf8_eq_ok {s t : Str} (h : encodeUtf8 s = .ok t) : IsScalar s ∧ t = s := by
  unfold encodeUtf8 at h
  split at h
  · cases h
  · rename_i hs
    cases h
    exact ⟨by simpa [IsScalar] using hs, rfl⟩

/-- The bytes of one code point in UTF-16-BE: one unit below `0x10000`, a pair above. -/
def utf16beBytes (c : CodePoint) : List Nat :=
  if c.val < 0x10000 then [c.val / 256, c.val % 256]
  else
    let hi := 0xD800 + (c.val - 0x10000) / 0x400
    let lo := 0xDC00 + (c.val - 0x10000) % 0x400
    [hi / 256, hi % 256, lo / 256, lo % 256]

/-- `s.encode("utf-16-be")`. -/
def encodeUtf16be (s : Str) : Except PyError (List Nat) :=
  if s.any isSurrogate then .error .unicodeEncodeError else .ok (s.flatMap utf16beBytes)

theorem encodeUtf16be_of_isScalar {s : Str} (h : IsScalar s) :
    encodeUtf16be s = .ok (s.flatMap utf16beBytes) := by
  have hs : s.any isSurrogate = false := by simpa [IsScalar] using h
  simp [encodeUtf16be, hs]

theorem encodeUtf16be_eq_ok {s : Str} {b : List Nat} (h : encodeUtf16be s = .ok b) :
    IsScalar s ∧ b = s.flatMap utf16beBytes := by
  unfold encodeUtf16be at h
  split at h
  · cases h
  · rename_i hs
    cases h
    exact ⟨by simpa [IsScalar] using hs, rfl⟩

/-- The first two bytes of a code point say whether two more follow: a high surrogate is no
code point of Unicode text.  So the encoding of a character is a prefix code. -/
theorem utf16beBytes_append_inj {c d : CodePoint} {s t : List Nat}
    (hc : isSurrogate c = false) (hd : isSurrogate d = false)
    (h : utf16beBytes c ++ s = utf16beBytes d ++ t) : c = d ∧ s = t := by
  have hc' := c.isLt
  have hd' := d.isLt
  simp only [isSurrogate, Bool.and_eq_false_iff, decide_eq_false_iff_not] at hc hd
  unfold utf16beBytes at h
  split at h <;> split at h <;>
    simp only [List.cons_append, List.nil_append, List.cons.injEq] at h
  · exact ⟨Fin.ext (by omega), h.2.2⟩
  · omega
  · omega
  · exact ⟨Fin.ext (by omega), h.2.2.2.2⟩

theorem flatMap_utf16be_injective : ∀ {s t : Str}, IsScalar s → IsScalar t →
    s.flatMap utf16beBytes = t.flatMap utf16beBytes → s = t
  | [], [], _, _, _ => rfl
  | [], d :: t, _, _, h => by
    simp only [List.flatMap_nil, List.flatMap_cons, utf16beBytes] at h
    split at h <;> simp at h
  | c :: s, [], _, _, h => by
    simp only [List.flatMap_nil, List.flatMap_cons, utf16beBytes] at h
    split at h <;> simp at h
  | c :: s, d :: t, hs, ht, h => by
    rw [isScalar_cons] at hs ht
    rw [List.flatMap_cons, List.flatMap_cons] at h
    obtain ⟨rfl, hrest⟩ := utf16beBytes_append_inj hs.1 ht.1 h
    rw [flatMap_utf16be_injective hs.2 ht.2 hrest]

/-! ## 3. Lines and blanks -/

/-- The line boundaries of `str.splitlines`. -/
def isLineBreak (c : CodePoint) : Bool :=
  (0x0A ≤ c.val && c.val ≤ 0x0D) || (0x1C ≤ c.val && c.val ≤ 0x1E) || c.val == 0x85 ||
    c.val == 0x2028 || c.val == 0x2029

/-- `str.splitlines()`: the lines without their terminators; a carriage return and the line
feed after it are one boundary. -/
def splitlines : Str → List Str
  | [] => []
  | 0x0D :: 0x0A :: s => [] :: splitlines s
  | c :: s =>
    if isLineBreak c then [] :: splitlines s
    else match splitlines s with
      | [] => [[c]]
      | l :: ls => (c :: l) :: ls

/-- Reading a file in text mode with universal newlines. -/
def universalNewlines : Str → Str
  | [] => []
  | 0x0D :: 0x0A :: s => 0x0A :: universalNewlines s
  | 0x0D :: s => 0x0A :: universalNewlines s
  | c :: s => c :: universalNewlines s

/-- `str.isspace` of one character. -/
def isSpace (c : CodePoint) : Bool :=
  (0x09 ≤ c.val && c.val ≤ 0x0D) || (0x1C ≤ c.val && c.val ≤ 0x20) || c.val == 0x85 ||
    c.val == 0xA0 || c.val == 0x1680 || (0x2000 ≤ c.val && c.val ≤ 0x200A) ||
    c.val == 0x2028 || c.val == 0x2029 || c.val == 0x202F || c.val == 0x205F || c.val == 0x3000

/-- `s.replace("\\n", "\n")` -/
def unescapeNewlines : Str → Str
  | [] => []
  | [c] => [c]
  | c :: d :: s =>
    if c.val = 0x5C ∧ d.val = 0x6E then 0x0A :: unescapeNewlines s
    else c :: unescapeNewlines (d :: s)

/-- `str.strip()`. -/
def strip (s : Str) : Str := ((s.dropWhile isSpace).reverse.dropWhile isSpace).reverse

/-- A line with something other than a space in it is not blank. -/
theorem strip_ne_nil {c : CodePoint} {s : Str} (h : isSpace c = false) (hc : c ∈ s) :
    strip s ≠ [] := by
  intro hs
  rw [strip, List.reverse_eq_nil_iff, List.dropWhile_eq_nil_iff] at hs
  have hdrop : s.dropWhile isSpace = [] := by
    rw [List.eq_nil_iff_forall_not_mem]
    intro d hd
    cases hl : s.dropWhile isSpace with
    | nil => rw [hl] at hd; cases hd
    | cons a l =>
      have ha : isSpace a = true := hs a (by rw [hl]; simp)
      have := List.head_dropWhile_not isSpace (by rw [hl]; simp : s.dropWhile isSpace ≠ [])
      simp [hl, ha] at this
  have := List.dropWhile_eq_nil_iff.mp hdrop c hc
  rw [h] at this
  cases this

/-- `str.strip()` leaves what it gives. -/
theorem strip_strip (s : Str) : strip (strip s) = strip s := by
  generalize ht : s.dropWhile isSpace = t
  have hs : strip s = t.rdropWhile isSpace := by rw [strip, ht]; rfl
  -- what is left begins as `t` does, with no space
  have hfront : (t.rdropWhile isSpace).dropWhile isSpace = t.rdropWhile isSpace := by
    have hprefix := List.rdropWhile_prefix isSpace t
    cases hr : t.rdropWhile isSpace with
    | nil => rfl
    | cons c rest =>
      rw [hr] at hprefix
      obtain ⟨rest', rfl⟩ := hprefix
      have hc := List.head_dropWhile_not isSpace (by rw [ht]; simp : s.dropWhile isSpace ≠ [])
      simp only [ht, List.cons_append, List.head_cons] at hc
      rw [List.dropWhile_cons_of_neg (by simp [hc])]
  rw [hs, strip, hfront]
  exact List.rdropWhile_idempotent isSpace t

theorem splitlines_cons {c : CodePoint} {s : Str} (h : isLineBreak c = false) :
    splitlines (c :: s) = match splitlines s with
      | [] => [[c]]
      | l :: ls => (c :: l) :: ls := by
  rw [splitlines.eq_def]
  split
  · rename_i heq; cases heq
  · rename_i heq; cases heq; simp [isLineBreak] at h
  · rename_i heq; cases heq; simp [h]

/-- A boundary other than the first half of a carriage return and line feed. -/
theorem splitlines_break {c : CodePoint} {s : Str} (h : isLineBreak c = true)
    (hcr : ∀ r, c :: s ≠ 0x0D :: 0x0A :: r) : splitlines (c :: s) = [] :: splitlines s := by
  rw [splitlines.eq_def]
  split
  · rename_i heq; cases heq
  · rename_i heq; exact absurd heq (hcr _)
  · rename_i heq; cases heq; simp [h]

/-- Splitting goes on afresh behind a boundary that is not a carriage return. -/
theorem splitlines_append_break {c : CodePoint} (hc : isLineBreak c = true) (hcr : c ≠ 0x0D)
    (t : Str) : ∀ s : Str, splitlines (s ++ c :: t) = splitlines (s ++ [c]) ++ splitlines t
  | [] => by
    have h : ∀ (u r : Str), c :: u ≠ 0x0D :: 0x0A :: r := fun u r e => hcr (List.cons.inj e).1
    rw [List.nil_append, List.nil_append, splitlines_break hc (h t), splitlines_break hc (h [])]
    rfl
  | 0x0D :: 0x0A :: s => by
    have ih := splitlines_append_break hc hcr t s
    simp only [List.cons_append, splitlines, ih]
  | a :: s => by
    have ih := splitlines_append_break hc hcr t s
    by_cases ha : isLineBreak a = true
    · by_cases hpair : ∃ r, a :: s = 0x0D :: 0x0A :: r
      · obtain ⟨r, hr⟩ := hpair
        cases hr
        have ih := splitlines_append_break hc hcr t r
        simp only [List.cons_append, splitlines, ih]
      · by_cases hlf : a = 0x0D ∧ s = [] ∧ c = 0x0A
        · obtain ⟨rfl, rfl, rfl⟩ := hlf
          simp [splitlines]
        · have hno : ∀ (u r : Str), a :: (s ++ c :: u) ≠ 0x0D :: 0x0A :: r := by
            intro u r e
            obtain ⟨h1, h2⟩ := List.cons.inj e
            cases s with
            | nil => exact hlf ⟨h1, rfl, (List.cons.inj h2).1⟩
            | cons b s =>
              obtain ⟨h3, -⟩ := List.cons.inj h2
              exact hpair ⟨s, by rw [h1, h3]⟩
          rw [List.cons_append, List.cons_append, splitlines_break ha (hno t),
            splitlines_break ha (hno []), ih]
          rfl
    · have ha : isLineBreak a = false := by simpa using ha
      rw [List.cons_append, List.cons_append, splitlines_cons ha, splitlines_cons ha, ih]
      cases hl : splitlines (s ++ [c]) with
      | nil =>
        exfalso
        cases s with
        | nil =>
          rw [List.nil_append, splitlines_break hc (fun r e => hcr (List.cons.inj e).1)] at hl
          cases hl
        | cons b s =>
          rw [splitlines.eq_def] at hl
          split at hl
          · rename_i heq; cases heq
          · cases hl
          · split at hl
            · cases hl
            · split at hl <;> cases hl
      | cons l ls => rfl

/-- A line without a boundary in it, ended by one. -/
theorem splitlines_line {c : CodePoint} (hc : isLineBreak c = true) (hcr : c ≠ 0x0D) :
    ∀ {l : Str}, (∀ d ∈ l, isLineBreak d = false) → splitlines (l ++ [c]) = [l]
  | [], _ => by
    rw [List.nil_append, splitlines_break hc (fun r e => hcr (List.cons.inj e).1)]
    rfl
  | d :: l, h => by
    have hd : isLineBreak d = false := h d (by simp)
    have ih := splitlines_line hc hcr (l := l) (fun d hd => h d (by simp [hd]))
    rw [List.cons_append, splitlines_cons hd, ih]

/-- Text without carriage returns is read as it is. -/
theorem universalNewlines_eq_self : ∀ {s : Str}, (∀ c ∈ s, c ≠ 0x0D) → universalNewlines s = s
  | [], _ => rfl
  | c :: s, h => by
    have hc : c ≠ 0x0D := h c (by simp)
    have ih := universalNewlines_eq_self (s := s) (fun d hd => h d (by simp [hd]))
    rw [universalNewlines.eq_def]
    split
    · rename_i heq; cases heq
    · rename_i heq; cases heq; exact absurd rfl hc
    · rename_i heq; cases heq; exact absurd rfl hc
    · rename_i heq; cases heq; rw [ih]

end Axg.Python
