/-
# A document that was cut

What a reader meets when a line boundary inside a string splits the text of an object in two.

`loads_cut`: `json.loads` raises `JSONDecodeError`, and nothing else, on every proper
beginning of the text.  A cut can fall inside a number and leave a shorter number behind it, so
for a value in general the scanner may succeed; but then it stops where no container goes on
(`Stuck`).

`loads_suffix`: and it raises on what is left of the text after a character that only a string
can hold.  The rest starts inside a string of the old text and outside every string of the new
one, and reading on never brings the two together (`quoteScan_ne`).
-/
import Axg.Python.JsonText

namespace Axg.Python

/-! ## 1. Fuel -/

mutual

/-- More fuel changes nothing but a failure. -/
theorem parseValue_mono : ∀ (fuel : Nat) (s : Str), parseValue fuel s ≠ .error .jsonDecodeError →
    parseValue (fuel + 1) s = parseValue fuel s
  | 0, s, h => absurd rfl h
  | fuel + 1, [], h => absurd rfl h
  | fuel + 1, c :: s, h => by
    have hi := parseItems_mono fuel
    have hm := parseMembers_mono fuel
    rw [parseValue] at h
    rw [parseValue, parseValue]
    by_cases h22 : c = 0x22
    · simp only [h22, ↓reduceIte]
    by_cases h5B : c = 0x5B
    · simp only [h5B, ↓reduceIte, show ¬ (0x5B : CodePoint) = 0x22 by decide] at h ⊢
      split
      · rfl
      · rw [hi]
        intro he
        simp only [he] at h
        exact h rfl
    by_cases h7B : c = 0x7B
    · simp only [h7B, ↓reduceIte, show ¬ (0x7B : CodePoint) = 0x22 by decide,
        show ¬ (0x7B : CodePoint) = 0x5B by decide] at h ⊢
      split
      · rfl
      · rw [hm]
        intro he
        simp only [he] at h
        exact h rfl
    · simp only [h22, h5B, h7B, ↓reduceIte]

theorem parseItems_mono : ∀ (fuel : Nat) (s : Str), parseItems fuel s ≠ .error .jsonDecodeError →
    parseItems (fuel + 1) s = parseItems fuel s
  | 0, s, h => absurd rfl h
  | fuel + 1, s, h => by
    have hv := parseValue_mono fuel s
    have hi := parseItems_mono fuel
    rw [parseItems] at h
    rw [parseItems, parseItems, hv (fun he => by rw [he] at h; exact h rfl)]
    cases hp : parseValue fuel s with
    | error e => rfl
    | ok p =>
      obtain ⟨d, r⟩ := p
      simp only [hp] at h ⊢
      split
      · rfl
      · rename_i r' hr
        simp only [hr] at h
        rw [hi _ (fun he => by rw [he] at h; exact h rfl)]
      · rfl

theorem parseMembers_mono : ∀ (fuel : Nat) (s : Str),
    parseMembers fuel s ≠ .error .jsonDecodeError →
    parseMembers (fuel + 1) s = parseMembers fuel s
  | 0, s, h => absurd rfl h
  | fuel + 1, s, h => by
    have hv := parseValue_mono fuel
    have hm := parseMembers_mono fuel
    rw [parseMembers.eq_def] at h
    rw [parseMembers.eq_def, parseMembers.eq_def (fuel + 1)]
    simp only at h ⊢
    split
    · rename_i s'
      simp only at h
      cases hs : scanString s' with
      | error e => rfl
      | ok p =>
        obtain ⟨k, r⟩ := p
        simp only [hs] at h ⊢
        split
        · rename_i r' hr
          simp only [hr] at h
          rw [hv _ (fun he => by rw [he] at h; exact h rfl)]
          cases hp : parseValue fuel (skipSpace r') with
          | error e => rfl
          | ok q =>
            obtain ⟨d, r''⟩ := q
            simp only [hp] at h ⊢
            split
            · rfl
            · rename_i q' hq
              simp only [hq] at h
              rw [hm _ (fun he => by rw [he] at h; exact h rfl)]
            · rfl
        · rfl
    · rfl

end

theorem parseValue_add {fuel : Nat} {s : Str} (h : parseValue fuel s ≠ .error .jsonDecodeError)
    (k : Nat) : parseValue (fuel + k) s = parseValue fuel s := by
  induction k with
  | zero => rfl
  | succ k ih => rw [← Nat.add_assoc, parseValue_mono _ _ (ih ▸ h), ih]

/-! ## 2. Strings and numbers -/

/-- An escape without its last characters. -/
theorem scanString_escape_cut {c : CodePoint} {p y : Str} (h : escapeChar c = p ++ y)
    (hy : y ≠ []) : scanString p = .error .jsonDecodeError := by
  have hshort : ∀ a : CodePoint, a ≠ 0x75 → [0x5C, a] = p ++ y →
      scanString p = .error .jsonDecodeError := by
    intro a _ he
    rcases p with _ | ⟨p0, _ | ⟨p1, p⟩⟩
    · rfl
    · simp only [List.cons_append, List.cons.injEq] at he
      rw [← he.1]; rfl
    · have := congrArg List.length he
      have := List.length_pos_iff.mpr hy
      simp only [List.length_cons, List.length_nil, List.length_append] at *
      omega
  unfold escapeChar at h
  split at h
  · exact hshort _ (by decide) h
  split at h
  · exact hshort _ (by decide) h
  split at h
  · exact hshort _ (by decide) h
  split at h
  · exact hshort _ (by decide) h
  split at h
  · exact hshort _ (by decide) h
  split at h
  · exact hshort _ (by decide) h
  split at h
  · exact hshort _ (by decide) h
  split at h
  · rcases p with _ | ⟨p0, _ | ⟨p1, _ | ⟨p2, _ | ⟨p3, _ | ⟨p4, _ | ⟨p5, p⟩⟩⟩⟩⟩⟩
    · rfl
    · simp only [List.cons_append, List.cons.injEq] at h
      rw [← h.1]; rfl
    · simp only [List.cons_append, List.cons.injEq] at h
      rw [← h.1, ← h.2.1]; rfl
    · simp only [List.cons_append, List.cons.injEq] at h
      rw [← h.1, ← h.2.1, ← h.2.2.1]; rfl
    · simp only [List.cons_append, List.cons.injEq] at h
      rw [← h.1, ← h.2.1, ← h.2.2.1, ← h.2.2.2.1]; rfl
    · simp only [List.cons_append, List.cons.injEq] at h
      rw [← h.1, ← h.2.1, ← h.2.2.1, ← h.2.2.2.1, ← h.2.2.2.2.1]; rfl
    · have := congrArg List.length h
      have := List.length_pos_iff.mpr hy
      simp only [List.length_cons, List.length_nil, List.length_append] at *
      omega
  · rcases p with _ | ⟨p0, p⟩
    · rfl
    · have := congrArg List.length h
      have := List.length_pos_iff.mpr hy
      simp only [List.length_cons, List.length_nil, List.length_append] at *
      omega

/-- A string without its closing quote. -/
theorem scanString_cut : ∀ (s p x : Str), s.flatMap escapeChar ++ [0x22] = p ++ x → x ≠ [] →
    scanString p = .error .jsonDecodeError
  | [], [], x, _, _ => rfl
  | [], c :: p, x, h, hx => by
    have := congrArg List.length h
    have := List.length_pos_iff.mpr hx
    simp only [List.flatMap_nil, List.nil_append, List.length_cons, List.length_nil,
      List.length_append, List.cons_append] at *
    omega
  | c :: s, p, x, h, hx => by
    rw [List.flatMap_cons, List.append_assoc] at h
    rcases List.append_eq_append_iff.mp h with ⟨q, rfl, hq⟩ | ⟨y, hy, rfl⟩
    · rw [scanString_escapeChar, scanString_cut s q x hq hx]
      rfl
    · by_cases hy0 : y = []
      · subst hy0
        rw [List.append_nil] at hy
        have := scanString_cut s [] _ (List.nil_append _).symm hx
        rw [← hy, ← List.append_nil (escapeChar c), scanString_escapeChar]
        rfl
      · exact scanString_escape_cut hy hy0

/-- The characters that a number is made of. -/
def isNumberChar (c : CodePoint) : Bool :=
  (digitVal c).isSome || c = 0x2D || c = 0x2B || c = 0x2E || c = 0x65 || c = 0x45

theorem isNumberChar_digitsText {ds : List Nat} (h : ∀ d ∈ ds, d < 10) :
    ∀ c ∈ digitsText ds, isNumberChar c = true := by
  intro c hc
  obtain ⟨d, hd, rfl⟩ := List.mem_map.mp hc
  simp [isNumberChar, digitVal_digitChar (h d hd)]

theorem isNumberChar_text {t : NumTok} (h : t.Ok) : ∀ c ∈ t.text, isNumberChar c = true := by
  obtain ⟨neg, int, frac, exp⟩ := t
  have hfrac : ∀ c ∈ NumTok.fracText frac, isNumberChar c = true := by
    cases frac with
    | nil => intro c hc; cases hc
    | cons d ds =>
      intro c hc
      rcases List.mem_cons.mp hc with rfl | hc
      · decide
      · exact isNumberChar_digitsText h.frac_lt c hc
  have hexp : ∀ c ∈ NumTok.expText exp, isNumberChar c = true := by
    cases exp with
    | none => intro c hc; cases hc
    | some p =>
      obtain ⟨n, ds⟩ := p
      intro c hc
      rcases List.mem_cons.mp hc with rfl | hc
      · decide
      rcases List.mem_cons.mp hc with rfl | hc
      · cases n <;> decide
      · exact isNumberChar_digitsText (h.exp_ok _ rfl).2 c hc
  intro c hc
  simp only [NumTok.text, List.mem_append] at hc
  rcases hc with hc | hc | hc | hc
  · cases neg
    · cases hc
    · rw [List.mem_singleton.mp hc]; decide
  · exact isNumberChar_digitsText h.int_lt c hc
  · exact hfrac c hc
  · exact hexp c hc

/-- `r` is what is left of `s` after characters of a number. -/
def NumberSplit (s r : Str) : Prop := ∃ q, s = q ++ r ∧ AllChars isNumberChar q

theorem NumberSplit.refl (s : Str) : NumberSplit s s := ⟨[], rfl, allChars_nil⟩

theorem NumberSplit.cons {c : CodePoint} {s r : Str} (hc : isNumberChar c = true)
    (h : NumberSplit s r) : NumberSplit (c :: s) r := by
  obtain ⟨q, rfl, hq⟩ := h
  exact ⟨c :: q, rfl, allChars_cons.mpr ⟨hc, hq⟩⟩

theorem NumberSplit.trans {s t r : Str} (h : NumberSplit s t) (h' : NumberSplit t r) :
    NumberSplit s r := by
  obtain ⟨q, rfl, hq⟩ := h
  obtain ⟨q', rfl, hq'⟩ := h'
  exact ⟨q ++ q', by simp, allChars_append.mpr ⟨hq, hq'⟩⟩

theorem NumberSplit.subset {s r : Str} (h : NumberSplit s r) : r ⊆ s := by
  obtain ⟨q, rfl, -⟩ := h
  exact List.subset_append_right q r

theorem readDigits_split (s : Str) : NumberSplit s (readDigits s).2 := by
  induction s with
  | nil => exact .refl _
  | cons c s ih =>
    unfold readDigits
    split
    · rename_i h
      exact ih.cons (by simp [isNumberChar, h])
    · exact .refl _

theorem readFrac_split (s : Str) : NumberSplit s (readFrac s).2 := by
  cases s with
  | nil => exact .refl _
  | cons c s =>
    simp only [readFrac]
    split
    · rename_i h
      exact (readDigits_split s).cons (by simp [isNumberChar, h.1])
    · exact .refl _

theorem readSign_split (s : Str) : NumberSplit s (readSign s).2 := by
  cases s with
  | nil => exact .refl _
  | cons c s =>
    simp only [readSign]
    split
    · rename_i h
      exact (NumberSplit.refl s).cons (by simp [isNumberChar, h])
    · split
      · rename_i h
        exact (NumberSplit.refl s).cons (by simp [isNumberChar, h])
      · exact .refl _

theorem readExp_split (s : Str) : NumberSplit s (readExp s).2 := by
  cases s with
  | nil => exact .refl _
  | cons c s =>
    simp only [readExp]
    split
    · rename_i h
      refine ((readSign_split s).trans (readDigits_split _)).cons ?_
      rcases h.1 with h | h <;> simp [isNumberChar, h]
    · exact .refl _

theorem readMinus_split (s : Str) : NumberSplit s (readMinus s).2 := by
  cases s with
  | nil => exact .refl _
  | cons c s =>
    simp only [readMinus]
    split
    · rename_i h
      exact (NumberSplit.refl s).cons (by simp [isNumberChar, h])
    · exact .refl _

theorem readInt_split {s r : Str} {int : List Nat} (h : readInt s = some (int, r)) :
    NumberSplit s r := by
  cases s with
  | nil => cases h
  | cons c s =>
    simp only [readInt] at h
    split at h
    · rename_i hc
      cases h
      exact (NumberSplit.refl r).cons (by rw [hc]; decide)
    · split at h
      · cases h
      · exact (Prod.mk.inj (Option.some.inj h)).2 ▸ readDigits_split (c :: s)

theorem readNumber_split {s r : Str} {t : NumTok} (h : readNumber s = some (t, r)) :
    NumberSplit s r := by
  unfold readNumber at h
  cases hint : readInt (readMinus s).2 with
  | none => rw [hint] at h; cases h
  | some q =>
    obtain ⟨int, r'⟩ := q
    rw [hint] at h
    cases h
    exact (readMinus_split s).trans ((readInt_split hint).trans
      ((readFrac_split r').trans (readExp_split _)))

theorem readMinus_append {p : Str} (hp : p ≠ []) (x : Str) :
    (readMinus (p ++ x)).2 = (readMinus p).2 ++ x := by
  cases p with
  | nil => exact absurd rfl hp
  | cons c p => simp only [readMinus, List.cons_append]; split <;> rfl

theorem readDigits_length_le (p x : Str) :
    (readDigits p).1.length ≤ (readDigits (p ++ x)).1.length := by
  induction p with
  | nil => simp [readDigits]
  | cons c p ih =>
    simp only [readDigits, List.cons_append]
    split
    · simpa using ih
    · simp

theorem readInt_length_le {s r : Str} {int : List Nat} (h : readInt s = some (int, r)) :
    int.length ≤ max 1 (readDigits s).1.length := by
  cases s with
  | nil => cases h
  | cons c s =>
    simp only [readInt] at h
    split at h
    · cases h
      exact Nat.le_max_left _ _
    · split at h
      · cases h
      · exact (Prod.mk.inj (Option.some.inj h)).1 ▸ Nat.le_max_right _ _

/-- The beginning of a number holds no longer number, and ends among its characters. -/
theorem readNumber_cut {t t' : NumTok} {p x r : Str} (ht : t.Ok) (h : t.text = p ++ x)
    (hr : readNumber p = some (t', r)) :
    t'.int.length ≤ t.int.length ∧ ∀ c ∈ r, isNumberChar c = true := by
  have hp : p ≠ [] := by rintro rfl; cases hr
  have hrest : ∀ c ∈ r, isNumberChar c = true := fun c hc =>
    isNumberChar_text ht c (h ▸ List.mem_append_left x ((readNumber_split hr).subset hc))
  unfold readNumber at hr
  cases hint : readInt (readMinus p).2 with
  | none => rw [hint] at hr; cases hr
  | some q =>
    obtain ⟨int, r'⟩ := q
    rw [hint] at hr
    cases hr
    have hlen := readInt_length_le hint
    refine ⟨?_, hrest⟩
    have hminus : (readMinus p).2 ++ x
        = digitsText t.int ++ (NumTok.fracText t.frac ++ (NumTok.expText t.exp ++ [])) := by
      rw [← readMinus_append hp, ← h, ← List.append_nil t.text, readMinus_text ht]
    have hdigits : (readDigits ((readMinus p).2 ++ x)).1 = t.int := by
      rw [hminus, readDigits_append ht.int_lt
        (noDigit_fracText _ (noDigit_expText _ numEnd_nil.noDigit))]
    have hle := readDigits_length_le (readMinus p).2 x
    have hpos := List.length_pos_iff.mpr ht.int_ne_nil
    rw [hdigits] at hle
    exact hlen.trans (max_le hpos hle)

/-! ## 3. Values -/

/-- What follows is nothing that a container goes on with. -/
def Stuck (r : Str) : Prop :=
  ∀ c s, skipSpace r = c :: s → c ≠ 0x2C ∧ c ≠ 0x3A ∧ c ≠ 0x5D ∧ c ≠ 0x7D

theorem stuck_of_isNumberChar {r : Str} (h : ∀ c ∈ r, isNumberChar c = true) : Stuck r := by
  intro c s hs
  have hmem : c ∈ skipSpace r := by rw [hs]; exact List.mem_cons_self
  have hc : isNumberChar c = true := h c ((List.dropWhile_sublist _).subset hmem)
  refine ⟨?_, ?_, ?_, ?_⟩ <;> rintro rfl <;> exact absurd hc (by decide)

/-- A written document in front of any text: the scanner reads it, or runs out of fuel. -/
theorem parseValue_render_or {pad : Str} (hpad : ∀ c ∈ pad, isJsonSpace c = true) {d : Doc}
    {r : Str} (hd : d.Ok) (hr : NumEnd r) (fuel : Nat) :
    parseValue fuel (d.render .plain pad ++ r) = .error .jsonDecodeError ∨
      parseValue fuel (d.render .plain pad ++ r) = .ok (d, r) := by
  by_cases h : parseValue fuel (d.render .plain pad ++ r) = .error .jsonDecodeError
  · exact Or.inl h
  · refine Or.inr ?_
    rw [← parseValue_add h d.cost]
    exact parseValue_render_plain hpad d _ r hd (by omega) hr

/-- Space in front of a text, cut: what is left after skipping it begins the text. -/
theorem skipSpace_cut {pad s p x : Str} (hpad : ∀ c ∈ pad, isJsonSpace c = true)
    (hs : ∃ c t, s = c :: t ∧ isJsonSpace c = false) (h : pad ++ s = p ++ x) (hx : x ≠ []) :
    ∃ x', x' ≠ [] ∧ s = skipSpace p ++ x' := by
  obtain ⟨c, t, rfl, hc⟩ := hs
  rcases List.append_eq_append_iff.mp h with ⟨q, rfl, hq⟩ | ⟨y, rfl, rfl⟩
  · refine ⟨x, hx, ?_⟩
    rw [skipSpace_append hpad]
    cases q with
    | nil => rw [hq]; rfl
    | cons c' q =>
      simp only [List.cons_append, List.cons.injEq] at hq
      rw [← hq.1, skipSpace_cons hc, hq.2, List.cons_append]
  · refine ⟨c :: t, by simp, ?_⟩
    have hskip := skipSpace_append (s := []) (fun d hd => hpad d (List.mem_append_left y hd))
    rw [List.append_nil] at hskip
    rw [hskip]; rfl

/-- Is the result a `JSONDecodeError`? -/
def isDecodeError {α : Type} : Except PyError α → Bool
  | .error .jsonDecodeError => true
  | _ => false

theorem eq_of_isDecodeError {α : Type} {r : Except PyError α} (h : isDecodeError r = true) :
    r = .error .jsonDecodeError := by
  cases r with
  | ok a => cases h
  | error e => cases e <;> first | rfl | cases h

/-- The texts that the scanner knows as they are. -/
def literals : List Str :=
  [lit "null", lit "true", lit "false", lit "NaN", lit "Infinity", lit "-Infinity"]

theorem literals_spec : ∀ l ∈ literals,
    (l.all (fun c => c ≠ 0x22 && c ≠ 0x5B && c ≠ 0x7B)) = true ∧
    ∀ n < l.length, isDecodeError (parseAtom (l.take n)) = true := by decide

/-- A literal, cut. -/
theorem parseValue_literal_cut {l p x : Str} (hl : l ∈ literals) (h : l = p ++ x)
    (hx : x ≠ []) (fuel : Nat) : parseValue fuel p = .error .jsonDecodeError := by
  obtain ⟨hhead, hatom⟩ := literals_spec l hl
  have hp : p = l.take p.length := by rw [h, List.take_left]
  have hlen : p.length < l.length := by
    have := List.length_pos_iff.mpr hx
    rw [h, List.length_append]; omega
  have hat := eq_of_isDecodeError (hatom p.length hlen)
  rw [← hp] at hat
  cases fuel with
  | zero => rfl
  | succ fuel =>
    cases p with
    | nil => rfl
    | cons c p =>
      have hc := List.all_eq_true.mp hhead c (by rw [h]; simp)
      simp only [Bool.and_eq_true, decide_eq_true_eq, and_assoc] at hc
      obtain ⟨h1, h2, h3⟩ := hc
      rw [parseValue, if_neg h1, if_neg h2, if_neg h3, hat]

/-- A number, cut: no number, or a shorter one. -/
theorem parseValue_number_cut {t : NumTok} {p x : Str} (ht : t.Ok) (hlen : t.int.length ≤ 4300)
    (h : t.text = p ++ x) (fuel : Nat) :
    parseValue fuel p = .error .jsonDecodeError ∨
      ∃ d r, parseValue fuel p = .ok (d, r) ∧ Stuck r := by
  cases fuel with
  | zero => exact Or.inl rfl
  | succ fuel =>
    cases p with
    | nil => exact Or.inl rfl
    | cons c p =>
      have hchars : ∀ b ∈ c :: p, isNumberChar b = true := fun b hb =>
        isNumberChar_text ht b (h ▸ List.mem_append_left x hb)
      have hne : ∀ a, isNumberChar a = false → c ≠ a := by
        rintro a ha rfl
        rw [hchars c (by simp)] at ha
        cases ha
      have hlit : ∀ a b s, isNumberChar b = false → dropLit (a :: b :: s) (c :: p) = none := by
        intro a b s hb
        unfold dropLit
        split
        · cases p with
          | nil => rfl
          | cons c' p =>
            refine dropLit_ne ?_
            rintro rfl
            rw [hchars b (by simp)] at hb
            cases hb
        · rfl
      have hatom : parseAtom (c :: p) = parseNumber (c :: p) := by
        unfold parseAtom
        rw [hlit _ _ _ (by decide), hlit _ _ _ (by decide), hlit _ _ _ (by decide),
          hlit _ _ _ (by decide), hlit _ _ _ (by decide), hlit _ _ _ (by decide)]
      rw [parseValue, if_neg (hne _ (by decide)), if_neg (hne _ (by decide)),
        if_neg (hne _ (by decide)), hatom, parseNumber]
      cases hr : readNumber (c :: p) with
      | none => exact Or.inl rfl
      | some q =>
        obtain ⟨t', r⟩ := q
        obtain ⟨hle, hstuck⟩ := readNumber_cut ht h hr
        have hnot : ¬ (t'.isInt = true ∧ 4300 < t'.int.length) := fun h => by omega
        simp only [hnot, ↓reduceIte]
        exact Or.inr ⟨_, r, rfl, stuck_of_isNumberChar hstuck⟩

theorem parseItems_nil (fuel : Nat) : parseItems fuel [] = .error .jsonDecodeError := by
  rcases fuel with _ | _ | fuel <;> rfl

theorem parseMembers_nil (fuel : Nat) : parseMembers fuel [] = .error .jsonDecodeError := by
  cases fuel <;> rfl

/-- A text of one character has no proper beginning but the empty one. -/
theorem eq_nil_of_singleton {c : CodePoint} {p x : Str} (h : [c] = p ++ x) (hx : x ≠ []) :
    p = [] := by
  rcases p with _ | ⟨a, p⟩
  · rfl
  · rw [List.cons_append, List.cons.injEq] at h
    exact absurd (List.append_eq_nil_iff.mp h.2.symm).2 hx

/-- A text cut in two: inside its first part, or behind it. -/
theorem cut_append {s t p x : Str} (h : s ++ t = p ++ x) :
    (∃ y, y ≠ [] ∧ s = p ++ y) ∨ ∃ q, p = s ++ q ∧ t = q ++ x := by
  rcases List.append_eq_append_iff.mp h with ⟨q, hq, ht⟩ | ⟨y, hy, hx⟩
  · exact Or.inr ⟨q, hq, ht⟩
  · cases y with
    | nil =>
      rw [List.append_nil] at hy
      exact Or.inr ⟨[], by simp [hy], by simp [hx]⟩
    | cons c y => exact Or.inl ⟨_, by simp, hy⟩

theorem numEnd_of_cut {s q x : Str} (hs : ∀ r, NumEnd (s ++ r)) (h : s = q ++ x) :
    NumEnd q := by
  intro c r hq
  have := hs [] c (r ++ x) (by rw [h, hq]; simp)
  exact this

set_option linter.unusedSectionVars false

section Cut

variable {pad : Str} (hpad : ∀ c ∈ pad, isJsonSpace c = true)

include hpad

mutual

/-- The text of a value, cut: an error, or a shorter number. -/
theorem parseValue_cut : ∀ (d : Doc) (fuel : Nat) (p x : Str), d.Ok → d.render .plain pad = p ++ x →
    x ≠ [] → parseValue fuel p = .error .jsonDecodeError ∨
      ∃ d' r, parseValue fuel p = .ok (d', r) ∧ Stuck r
  | .null, fuel, p, x, _, h, hx =>
      Or.inl (parseValue_literal_cut (by simp [literals, Doc.render]) h hx fuel)
  | .bool true, fuel, p, x, _, h, hx =>
      Or.inl (parseValue_literal_cut (by simp [literals, Doc.render]) h hx fuel)
  | .bool false, fuel, p, x, _, h, hx =>
      Or.inl (parseValue_literal_cut (by simp [literals, Doc.render]) h hx fuel)
  | .nan, fuel, p, x, _, h, hx =>
      Or.inl (parseValue_literal_cut (by simp [literals, Doc.render]) h hx fuel)
  | .inf true, fuel, p, x, _, h, hx =>
      Or.inl (parseValue_literal_cut (by simp [literals, Doc.render]) h hx fuel)
  | .inf false, fuel, p, x, _, h, hx =>
      Or.inl (parseValue_literal_cut (by simp [literals, Doc.render]) h hx fuel)
  | .num t, fuel, p, x, hok, h, _ => parseValue_number_cut hok.1 hok.2 h fuel
  | .str s, 0, p, x, _, _, _ => Or.inl rfl
  | .str s, fuel + 1, [], x, _, _, _ => Or.inl rfl
  | .str s, fuel + 1, c :: p, x, _, h, hx => by
    simp only [Doc.render, Quoting.text_plain, quote, List.cons_append, List.cons.injEq] at h
    obtain ⟨rfl, h⟩ := h
    rw [parseValue, if_pos rfl, scanString_cut s p x h hx]
    exact Or.inl rfl
  | .arr ds, fuel, p, x, hok, h, hx => Or.inl (parseArr_cut ds fuel p x hok h hx)
  | .obj ms, fuel, p, x, hok, h, hx => Or.inl (parseObj_cut ms fuel p x hok h hx)

theorem parseArr_cut : ∀ (ds : List Doc) (fuel : Nat) (p x : Str), Doc.OkItems ds →
    (Doc.arr ds).render .plain pad = p ++ x → x ≠ [] → parseValue fuel p = .error .jsonDecodeError
  | _, 0, _, _, _, _, _ => rfl
  | _, _ + 1, [], _, _, _, _ => rfl
  | [], fuel + 1, c :: p, x, _, h, hx => by
    simp only [Doc.render, List.cons_append, List.cons.injEq] at h
    obtain ⟨rfl, h⟩ := h
    rw [eq_nil_of_singleton h hx, parseValue, if_neg (by decide), if_pos rfl]
    simp only [skipSpace, List.dropWhile_nil, parseItems_nil]
  | d :: ds, fuel + 1, c :: p, x, hok, h, hx => by
    simp only [Doc.render, List.cons_append, List.cons.injEq] at h
    obtain ⟨rfl, h⟩ := h
    have hitems := parseItems_cut (d :: ds) fuel p x hok h hx
    have hskip : skipSpace p = p ∧ ∀ r, p ≠ 0x5D :: r := by
      obtain ⟨c, t, ht, hc, hc'⟩ := Doc.render_head .plain pad hok.1
      cases p with
      | nil => exact ⟨rfl, by simp⟩
      | cons c' p =>
        rw [ht, List.cons_append, List.cons_append, List.cons.injEq] at h
        rw [← h.1]
        exact ⟨skipSpace_cons hc, fun r e => hc' (List.cons.inj e).1⟩
    rw [parseValue, if_neg (by decide), if_pos rfl, hskip.1]
    split
    · exact absurd rfl (hskip.2 _)
    · rw [hitems]

theorem parseObj_cut : ∀ (ms : List (Str × Doc)) (fuel : Nat) (p x : Str), Doc.OkMembers ms →
    (Doc.obj ms).render .plain pad = p ++ x → x ≠ [] → parseValue fuel p = .error .jsonDecodeError
  | _, 0, _, _, _, _, _ => rfl
  | _, _ + 1, [], _, _, _, _ => rfl
  | [], fuel + 1, c :: p, x, _, h, hx => by
    simp only [Doc.render, List.cons_append, List.cons.injEq] at h
    obtain ⟨rfl, h⟩ := h
    rw [eq_nil_of_singleton h hx, parseValue, if_neg (by decide), if_neg (by decide), if_pos rfl]
    simp only [skipSpace, List.dropWhile_nil, parseMembers_nil]
  | (k, d) :: ms, fuel + 1, c :: p, x, hok, h, hx => by
    simp only [Doc.render, List.cons_append, List.cons.injEq] at h
    obtain ⟨rfl, h⟩ := h
    have hmembers := parseMembers_cut ((k, d) :: ms) fuel p x hok h hx
    have hskip : skipSpace p = p ∧ ∀ r, p ≠ 0x7D :: r := by
      cases p with
      | nil => exact ⟨rfl, by simp⟩
      | cons c' p =>
        rw [Quoting.text_plain, quote, List.cons_append, List.cons_append, List.cons.injEq] at h
        rw [← h.1]
        exact ⟨skipSpace_cons (by decide), fun r e => absurd (List.cons.inj e).1 (by decide)⟩
    rw [parseValue, if_neg (by decide), if_neg (by decide), if_pos rfl, hskip.1]
    split
    · exact absurd rfl (hskip.2 _)
    · rw [hmembers]

theorem parseItems_cut : ∀ (ds : List Doc) (fuel : Nat) (p x : Str), Doc.OkItems ds →
    Doc.itemsText .plain pad ds = p ++ x → x ≠ [] → parseItems fuel p = .error .jsonDecodeError
  | [], _, _, _, _, h, hx => absurd (List.append_eq_nil_iff.mp h.symm).2 hx
  | _ :: _, 0, _, _, _, _, _ => rfl
  | d :: ds, fuel + 1, p, x, hok, h, hx => by
    rw [parseItems]
    rcases cut_append h with ⟨y, hy, hd⟩ | ⟨q, rfl, hq⟩
    · rcases parseValue_cut d fuel p y hok.1 hd hy with he | ⟨d', r, he, hr⟩
      · rw [he]
      · rw [he]
        simp only
        split
        · rename_i hs; exact absurd rfl (hr _ _ hs).2.2.1
        · rename_i hs; exact absurd rfl (hr _ _ hs).1
        · rfl
    · have hend : NumEnd q := numEnd_of_cut (numEnd_renderItems .plain pad ds) hq
      rcases parseValue_render_or hpad hok.1 hend fuel with he | he
      · rw [he]
      · rw [he]
        cases q with
        | nil => rfl
        | cons c q =>
          cases ds with
          | nil =>
            have := eq_nil_of_singleton hq hx
            cases this
          | cons e es =>
            rw [Doc.renderItems, List.cons_append, List.cons.injEq] at hq
            obtain ⟨rfl, hq⟩ := hq
            obtain ⟨c, t, ht, hc, -⟩ := Doc.render_head .plain pad hok.2.1
            obtain ⟨x', hx', hs⟩ := skipSpace_cut hpad
              ⟨c, t ++ Doc.renderItems .plain pad es, by rw [ht]; rfl, hc⟩ hq hx
            have ih := parseItems_cut (e :: es) fuel (skipSpace q) x' hok.2 hs hx'
            simp only
            rw [skipSpace_cons (by decide)]
            simp only [ih]

theorem parseMembers_cut : ∀ (ms : List (Str × Doc)) (fuel : Nat) (p x : Str),
    Doc.OkMembers ms → Doc.membersText .plain pad ms = p ++ x → x ≠ [] →
    parseMembers fuel p = .error .jsonDecodeError
  | [], _, _, _, _, h, hx => absurd (List.append_eq_nil_iff.mp h.symm).2 hx
  | _ :: _, 0, _, _, _, _, _ => rfl
  | _ :: _, fuel + 1, [], _, _, _, _ => parseMembers_nil _
  | (k, d) :: ms, fuel + 1, c :: p, x, hok, h, hx => by
    rw [Doc.membersText, Quoting.text_plain, quote_append, List.cons_append, List.cons.injEq] at h
    obtain ⟨rfl, h⟩ := h
    rw [parseMembers]
    rw [← List.singleton_append, ← List.append_assoc] at h
    rcases cut_append h with ⟨y, hy, hk⟩ | ⟨q, rfl, hq⟩
    · rw [scanString_cut k p y hk hy]
    rw [List.append_assoc, List.singleton_append, scanString_append]
    cases q with
    | nil => rfl
    | cons c q =>
      rw [List.cons_append, List.cons.injEq] at hq
      obtain ⟨rfl, hq⟩ := hq
      obtain ⟨c, t, ht, hc, -⟩ := Doc.render_head .plain pad hok.1
      obtain ⟨x', hx', hs⟩ := skipSpace_cut hpad
        ⟨c, t ++ Doc.renderMembers .plain pad ms, by rw [ht]; rfl, hc⟩ hq hx
      simp only
      rw [skipSpace_cons (by decide)]
      simp only
      generalize skipSpace q = q at hs
      rcases cut_append hs with ⟨y, hy, hd⟩ | ⟨q', rfl, hq'⟩
      · rcases parseValue_cut d fuel q y hok.1 hd hy with he | ⟨d', r, he, hr⟩
        · rw [he]
        · rw [he]
          simp only
          split
          · rename_i hs; exact absurd rfl (hr _ _ hs).2.2.2
          · rename_i hs; exact absurd rfl (hr _ _ hs).1
          · rfl
      · have hend : NumEnd q' := numEnd_of_cut (numEnd_renderMembers .plain pad ms) hq'
        rcases parseValue_render_or hpad hok.1 hend fuel with he | he
        · rw [he]
        · rw [he]
          cases q' with
          | nil => rfl
          | cons c q' =>
            rcases ms with _ | ⟨⟨k', d'⟩, ms⟩
            · have := eq_nil_of_singleton hq' hx'
              cases this
            · rw [Doc.renderMembers, List.cons_append, List.cons.injEq] at hq'
              obtain ⟨rfl, hq'⟩ := hq'
              obtain ⟨x'', hx'', hs'⟩ := skipSpace_cut hpad
                ⟨0x22, _, by rw [Quoting.text_plain, quote_append], by decide⟩ hq' hx'
              have ih := parseMembers_cut ((k', d') :: ms) fuel (skipSpace q') x'' hok.2 hs' hx''
              simp only
              rw [skipSpace_cons (by decide)]
              simp only [ih]

end

/-- `json.loads` refuses every proper beginning of an object's text, with `JSONDecodeError`. -/
theorem loads_cut {ms : List (Str × Doc)} {p x : Str} (hok : (Doc.obj ms).Ok)
    (h : (Doc.obj ms).render .plain pad = p ++ x) (hx : x ≠ []) :
    loads p = .error .jsonDecodeError := by
  have hskip : skipSpace p = p := by
    cases p with
    | nil => rfl
    | cons c p =>
      have hhead : c = 0x7B := by
        rcases ms with _ | ⟨⟨k, d⟩, ms⟩ <;>
          · simp only [Doc.render, List.cons_append, List.cons.injEq] at h
            exact h.1.symm
      rw [hhead, skipSpace_cons (by decide)]
  rw [loads, hskip, parseObj_cut hpad ms (p.length + 1) p x hok h hx]

end Cut

/-! ## 4. From the middle of a string -/

/-- Follow the quotes of a text, from inside a string or from outside.  Outside there is no
backslash, and nothing but ASCII. -/
def quoteScan : Bool → Str → Option Bool
  | q, [] => some q
  | false, c :: s =>
    if c = 0x22 then quoteScan true s
    else if c = 0x5C ∨ 0x80 ≤ c.val then none
    else quoteScan false s
  | true, 0x5C :: _ :: s => quoteScan true s
  | true, c :: s =>
    if c = 0x22 then quoteScan false s
    else if c = 0x5C then none
    else quoteScan true s

theorem quoteScan_false (c : CodePoint) (s : Str) : quoteScan false (c :: s)
    = if c = 0x22 then quoteScan true s
      else if c = 0x5C ∨ 0x80 ≤ c.val then none else quoteScan false s := by
  rw [quoteScan]

theorem quoteScan_true {c : CodePoint} (hc : c ≠ 0x5C) (s : Str) :
    quoteScan true (c :: s) = if c = 0x22 then quoteScan false s else quoteScan true s := by
  rw [quoteScan.eq_def]
  split
  · rename_i h; cases h
  · rename_i hq _; cases hq
  · rename_i h; cases h; exact absurd rfl hc
  · rename_i h; cases h; simp [hc]

/-- Two readings of one text, one from inside a string and one from outside, never meet. -/
theorem quoteScan_ne : ∀ (s : Str) (a b : Bool), quoteScan true s = some a →
    quoteScan false s = some b → a ≠ b
  | [], a, b, ha, hb => by cases ha; cases hb; decide
  | c :: s, a, b, ha, hb => by
    rw [quoteScan_false] at hb
    by_cases h5C : c = 0x5C
    · simp [h5C] at hb
    rw [quoteScan_true h5C] at ha
    by_cases h22 : c = 0x22
    · simp only [h22, ↓reduceIte] at ha hb
      exact fun h => quoteScan_ne s b a hb ha h.symm
    · simp only [h22, h5C, ↓reduceIte, false_or] at ha hb
      split at hb
      · cases hb
      · exact quoteScan_ne s a b ha hb

/-- A character beyond ASCII is inside a string. -/
theorem quoteScan_raw {c : CodePoint} (hc : 0x80 ≤ c.val) (x : Str) {a : Bool} :
    ∀ (p : Str) (q : Bool), quoteScan q (p ++ c :: x) = some a → quoteScan true x = some a
  | [], false, h => by
    have h22 : c ≠ 0x22 := by rintro rfl; exact absurd hc (by decide)
    simp [quoteScan_false, h22, hc] at h
  | [], true, h => by
    have h22 : c ≠ 0x22 := by rintro rfl; exact absurd hc (by decide)
    have h5C : c ≠ 0x5C := by rintro rfl; exact absurd hc (by decide)
    simpa [quoteScan_true h5C, h22] using h
  | b :: p, false, h => by
    rw [List.cons_append, quoteScan_false] at h
    split at h
    · exact quoteScan_raw hc x p true h
    · split at h
      · cases h
      · exact quoteScan_raw hc x p false h
  | 0x5C :: [], true, h => h
  | 0x5C :: _ :: p, true, h => quoteScan_raw hc x p true h
  | b :: p, true, h => by
    by_cases h5C : b = 0x5C
    · subst h5C
      cases p with
      | nil => exact h
      | cons d p => exact quoteScan_raw hc x p true h
    · rw [List.cons_append, quoteScan_true h5C] at h
      split at h
      · exact quoteScan_raw hc x p false h
      · exact quoteScan_raw hc x p true h

/-- Characters that are not quotes, backslashes or beyond ASCII leave the reading outside. -/
theorem quoteScan_append {q r : Str}
    (hq : AllChars (fun c => c ≠ 0x22 && c ≠ 0x5C && decide (c.val < 0x80)) q) :
    quoteScan false (q ++ r) = quoteScan false r := by
  induction q with
  | nil => rfl
  | cons c q ih =>
    rw [allChars_cons] at hq
    have hc := hq.1
    simp only [Bool.and_eq_true, decide_eq_true_eq] at hc
    have hno : ¬ (c = 0x5C ∨ 0x80 ≤ c.val) := by
      rintro (h | h)
      · exact hc.1.2 h
      · omega
    rw [List.cons_append, quoteScan_false, if_neg hc.1.1, if_neg hno, ih hq.2]

theorem quoteScan_skipSpace (s : Str) : quoteScan false (skipSpace s) = quoteScan false s := by
  have hsplit : s = s.takeWhile isJsonSpace ++ skipSpace s := (List.takeWhile_append_dropWhile).symm
  conv_rhs => rw [hsplit]
  refine (quoteScan_append (fun c hc => ?_)).symm
  have hsp := List.mem_takeWhile_imp hc
  simp only [isJsonSpace, Bool.or_eq_true, decide_eq_true_eq] at hsp
  rcases hsp with ((rfl | rfl) | rfl) | rfl <;> decide

theorem quoteScan_number {s r : Str} (h : NumberSplit s r) :
    quoteScan false s = quoteScan false r := by
  obtain ⟨q, rfl, hq⟩ := h
  refine quoteScan_append (fun c hc => ?_)
  have hnum := hq c hc
  have hdigit : (digitVal c).isSome = true → 0x30 ≤ c.val ∧ c.val ≤ 0x39 := by
    intro hd
    unfold digitVal at hd
    split at hd
    · rename_i h'; simpa using h'
    · cases hd
  simp only [isNumberChar, Bool.or_eq_true, decide_eq_true_eq] at hnum
  rcases hnum with ((((h | rfl) | rfl) | rfl) | rfl) | rfl
  · have hd := hdigit h
    have h1 : c ≠ 0x22 := by rintro rfl; exact absurd hd (by decide)
    have h2 : c ≠ 0x5C := by rintro rfl; exact absurd hd (by decide)
    simp only [ne_eq, h1, not_false_eq_true, decide_true, h2, Bool.and_self, Bool.true_and,
      decide_eq_true_eq]
    omega
  all_goals decide

theorem dropLit_eq_some : ∀ {p s r : Str}, dropLit p s = some r → s = p ++ r
  | [], s, r, h => Option.some.inj h
  | a :: p, [], r, h => nomatch h
  | a :: p, b :: s, r, h => by
    rw [dropLit] at h
    split at h
    · rename_i hab
      rw [hab, dropLit_eq_some h, List.cons_append]
    · cases h

theorem quoteScan_hexVal {a : CodePoint} {x : Nat} (h : hexVal a = some x) (s : Str) :
    quoteScan true (a :: s) = quoteScan true s := by
  have h1 : a ≠ 0x22 := by rintro rfl; rw [show hexVal 0x22 = none by decide] at h; cases h
  have h2 : a ≠ 0x5C := by rintro rfl; rw [show hexVal 0x5C = none by decide] at h; cases h
  rw [quoteScan_true h2, if_neg h1]

theorem quoteScan_hex4 {a b c d : CodePoint} {u : Nat} (h : hex4 a b c d = some u) (s : Str) :
    quoteScan true (0x5C :: 0x75 :: a :: b :: c :: d :: s) = quoteScan true s := by
  unfold hex4 at h
  split at h
  · rename_i ha hb hc hd
    have hu : quoteScan true (0x5C :: 0x75 :: a :: b :: c :: d :: s)
        = quoteScan true (a :: b :: c :: d :: s) := rfl
    rw [hu, quoteScan_hexVal ha, quoteScan_hexVal hb, quoteScan_hexVal hc, quoteScan_hexVal hd]
  · cases h

theorem consChar_eq_ok {c : CodePoint} {e : Except PyError (Str × Str)} {t r : Str}
    (h : consChar c e = .ok (t, r)) : ∃ t', e = .ok (t', r) := by
  cases e with
  | error e => cases h
  | ok p => obtain ⟨t', r'⟩ := p; cases h; exact ⟨t', rfl⟩

theorem joinHigh_eq_ok {u : Nat} {low : Bool} {e : Except PyError (Str × Str)} {t r : Str}
    (h : joinHigh u low e = .ok (t, r)) : ∃ t', e = .ok (t', r) := by
  unfold joinHigh at h
  split at h
  · split at h <;> · cases h; exact ⟨_, rfl⟩
  · cases h; exact ⟨_, rfl⟩
  · cases h

/-- A scanned string starts inside and ends outside. -/
theorem quoteScan_scanString (s : Str) : ∀ {t r : Str}, scanString s = .ok (t, r) →
    quoteScan true s = quoteScan false r := by
  fun_induction scanString s with
  | case1 => intro t r h; cases h
  | case2 a b c d s hx => intro t r h; cases h
  | case3 a b c d s u hx hu ih =>
    intro t r h
    obtain ⟨t', ht⟩ := joinHigh_eq_ok h
    rw [quoteScan_hex4 hx, ih ht]
  | case4 a b c d s u hx hu ih =>
    intro t r h
    obtain ⟨t', ht⟩ := consChar_eq_ok h
    rw [quoteScan_hex4 hx, ih ht]
  | case5 c s hno c' hc ih =>
    intro t r h
    obtain ⟨t', ht⟩ := consChar_eq_ok h
    exact ih ht
  | case6 => intro t r h; cases h
  | case7 s => intro t r h; cases h; rfl
  | case8 => intro t r h; cases h
  | case9 c s hno1 hno2 h22 hplain ih =>
    intro t r h
    obtain ⟨t', ht⟩ := consChar_eq_ok h
    have h5C : c ≠ 0x5C := fun e => hplain (Or.inr e)
    rw [quoteScan_true h5C, if_neg h22, ih ht]

theorem quoteScan_literal {l s r : Str} (hl : l ∈ literals) (h : dropLit l s = some r) :
    quoteScan false s = quoteScan false r := by
  have hascii : ∀ l ∈ literals,
      AllChars (fun c => c ≠ 0x22 && c ≠ 0x5C && decide (c.val < 0x80)) l := by decide
  rw [dropLit_eq_some h, quoteScan_append (hascii l hl)]

theorem quoteScan_parseAtom {s r : Str} {d : Doc} (h : parseAtom s = .ok (d, r)) :
    quoteScan false s = quoteScan false r := by
  unfold parseAtom at h
  split at h
  · rename_i hl; cases h; exact quoteScan_literal (by decide) hl
  split at h
  · rename_i hl; cases h; exact quoteScan_literal (by decide) hl
  split at h
  · rename_i hl; cases h; exact quoteScan_literal (by decide) hl
  split at h
  · rename_i hl; cases h; exact quoteScan_literal (by decide) hl
  split at h
  · rename_i hl; cases h; exact quoteScan_literal (by decide) hl
  split at h
  · rename_i hl; cases h; exact quoteScan_literal (by decide) hl
  unfold parseNumber at h
  split at h
  · cases h
  · rename_i hn
    split at h
    · cases h
    · cases h; exact quoteScan_number (readNumber_split hn)

/-- A character outside every string that changes nothing. -/
theorem quoteScan_plain {c : CodePoint} (h22 : c ≠ 0x22) (h5C : c ≠ 0x5C) (hc : c.val < 0x80)
    (s : Str) : quoteScan false (c :: s) = quoteScan false s := by
  refine quoteScan_append (q := [c]) (allChars_cons.mpr ⟨?_, allChars_nil⟩)
  simp [h22, h5C, hc]

theorem quoteScan_next {c : CodePoint} {r r' : Str} (hr : skipSpace r = c :: r') (h22 : c ≠ 0x22)
    (h5C : c ≠ 0x5C) (hc : c.val < 0x80) : quoteScan false r = quoteScan false (skipSpace r') := by
  rw [← quoteScan_skipSpace r, hr, quoteScan_plain h22 h5C hc, quoteScan_skipSpace]

mutual

/-- The scanner takes strings whole: what it leaves is outside if it started outside. -/
theorem quoteScan_parseValue : ∀ {fuel : Nat} {s r : Str} {d : Doc},
    parseValue fuel s = .ok (d, r) → quoteScan false s = quoteScan false r
  | 0, _, _, _, h => nomatch h
  | _ + 1, [], _, _, h => nomatch h
  | fuel + 1, c :: s, r, d, h => by
    rw [parseValue] at h
    split at h
    · rename_i h22
      split at h
      · rename_i hs
        cases h
        rw [h22, quoteScan_false, if_pos rfl, quoteScan_scanString s hs]
      · cases h
    split at h
    · rename_i h5B
      subst h5B
      rw [quoteScan_plain (by decide) (by decide) (by decide)]
      split at h
      · rename_i hs
        cases h
        rw [quoteScan_next hs (by decide) (by decide) (by decide), quoteScan_skipSpace]
      · split at h
        · rename_i hs
          cases h
          rw [← quoteScan_skipSpace s, quoteScan_parseItems hs]
        · cases h
    split at h
    · rename_i h7B
      subst h7B
      rw [quoteScan_plain (by decide) (by decide) (by decide)]
      split at h
      · rename_i hs
        cases h
        rw [quoteScan_next hs (by decide) (by decide) (by decide), quoteScan_skipSpace]
      · split at h
        · rename_i hs
          cases h
          rw [← quoteScan_skipSpace s, quoteScan_parseMembers hs]
        · cases h
    · exact quoteScan_parseAtom h

theorem quoteScan_parseItems : ∀ {fuel : Nat} {s r : Str} {ds : List Doc},
    parseItems fuel s = .ok (ds, r) → quoteScan false s = quoteScan false r
  | 0, _, _, _, h => nomatch h
  | fuel + 1, s, r, ds, h => by
    rw [parseItems] at h
    cases hv : parseValue fuel s with
    | error e => rw [hv] at h; cases h
    | ok p =>
      obtain ⟨d, r'⟩ := p
      rw [hv] at h
      simp only at h
      rw [quoteScan_parseValue hv]
      split at h
      · rename_i hr
        cases h
        rw [quoteScan_next hr (by decide) (by decide) (by decide), quoteScan_skipSpace]
      · rename_i hr
        rw [quoteScan_next hr (by decide) (by decide) (by decide)]
        split at h
        · rename_i hi
          cases h
          exact quoteScan_parseItems hi
        · cases h
      · cases h

theorem quoteScan_parseMembers : ∀ {fuel : Nat} {s r : Str} {ms : List (Str × Doc)},
    parseMembers fuel s = .ok (ms, r) → quoteScan false s = quoteScan false r
  | 0, _, _, _, h => nomatch h
  | fuel + 1, s, r, ms, h => by
    rw [parseMembers.eq_def] at h
    simp only at h
    split at h
    · rename_i s'
      cases hs : scanString s' with
      | error e => rw [hs] at h; cases h
      | ok p =>
        obtain ⟨k, r1⟩ := p
        rw [hs] at h
        simp only at h
        rw [quoteScan_false, if_pos rfl, quoteScan_scanString s' hs]
        split at h
        · rename_i hr
          rw [quoteScan_next hr (by decide) (by decide) (by decide)]
          split at h
          · cases h
          · rename_i hv
            rw [quoteScan_parseValue hv]
            split at h
            · rename_i hr'
              cases h
              rw [quoteScan_next hr' (by decide) (by decide) (by decide), quoteScan_skipSpace]
            · rename_i hr'
              rw [quoteScan_next hr' (by decide) (by decide) (by decide)]
              split at h
              · rename_i hm
                cases h
                exact quoteScan_parseMembers hm
              · cases h
            · cases h
        · cases h
    · cases h

end

/-- A text that is read leaves no string open. -/
theorem quoteScan_loads {s : Str} {v : Json} (h : loads s = .ok v) :
    quoteScan false s = some false := by
  unfold loads at h
  split at h
  · cases h
  · rename_i d r hp
    split at h
    · rename_i hr
      rw [← quoteScan_skipSpace, quoteScan_parseValue hp, ← quoteScan_skipSpace, hr]
      rfl
    · cases h

/-- What is left of a text after a character inside a string is no text itself. -/
theorem loads_suffix {p x : Str} {c : CodePoint} {v : Json} (hc : 0x80 ≤ c.val)
    (h : loads (p ++ c :: x) = .ok v) (w : Json) : loads x ≠ .ok w := by
  intro hx
  have hinside := quoteScan_raw hc x p false (quoteScan_loads h)
  exact quoteScan_ne x _ _ hinside (quoteScan_loads hx) rfl

end Axg.Python
