/-
# The characters of a document

`json.loads` takes no control character but the three that are white space to it, inside a string
or outside (`loads_textChars`).  So of the line boundaries of `str.splitlines` a document holds
only those beyond ASCII, and these in strings alone: cut there, what is left in front is no document
(`loads_break_cut`).
-/
import Axg.Python.JsonCut

namespace Axg.Python

/-! ## 1. What the scanner takes -/

/-- The characters of documents: white space, and everything that is not a control character. -/
def isTextChar (c : CodePoint) : Bool := isJsonSpace c || 0x20 ≤ c.val

/-- `r` is what is left of `s` after characters of a document. -/
def TextSplit (s r : Str) : Prop := ∃ q, s = q ++ r ∧ AllChars isTextChar q

theorem TextSplit.refl (s : Str) : TextSplit s s := ⟨[], rfl, allChars_nil⟩

theorem TextSplit.cons {c : CodePoint} {s r : Str} (hc : isTextChar c = true)
    (h : TextSplit s r) : TextSplit (c :: s) r := by
  obtain ⟨q, rfl, hq⟩ := h
  exact ⟨c :: q, rfl, allChars_cons.mpr ⟨hc, hq⟩⟩

theorem TextSplit.trans {s t r : Str} (h : TextSplit s t) (h' : TextSplit t r) :
    TextSplit s r := by
  obtain ⟨q, rfl, hq⟩ := h
  obtain ⟨q', rfl, hq'⟩ := h'
  exact ⟨q ++ q', by simp, allChars_append.mpr ⟨hq, hq'⟩⟩

theorem isTextChar_of_le {c : CodePoint} (h : 0x20 ≤ c.val) : isTextChar c = true := by
  simp [isTextChar, h]

theorem textSplit_skipSpace (s : Str) : TextSplit s (skipSpace s) := by
  refine ⟨s.takeWhile isJsonSpace, List.takeWhile_append_dropWhile.symm, ?_⟩
  intro c hc
  simp [isTextChar, List.mem_takeWhile_imp hc]

/-- White space, a character, and white space again. -/
theorem textSplit_next {c : CodePoint} {r r' : Str} (hr : skipSpace r = c :: r')
    (hc : 0x20 ≤ c.val) : TextSplit r (skipSpace r') := by
  have hskip := textSplit_skipSpace r
  rw [hr] at hskip
  exact hskip.trans ((textSplit_skipSpace r').cons (isTextChar_of_le hc))

theorem textSplit_last {c : CodePoint} {r r' : Str} (hr : skipSpace r = c :: r')
    (hc : 0x20 ≤ c.val) : TextSplit r r' := by
  have hskip := textSplit_skipSpace r
  rw [hr] at hskip
  exact hskip.trans ((TextSplit.refl r').cons (isTextChar_of_le hc))

theorem textSplit_number {s r : Str} (h : NumberSplit s r) : TextSplit s r := by
  obtain ⟨q, rfl, hq⟩ := h
  refine ⟨q, rfl, ?_⟩
  intro c hc
  have hnum := hq c hc
  have hdigit : (digitVal c).isSome = true → 0x30 ≤ c.val := by
    intro hd
    unfold digitVal at hd
    split at hd
    · rename_i h'; exact (by simpa using h' : 0x30 ≤ c.val ∧ _).1
    · cases hd
  simp only [isNumberChar, Bool.or_eq_true, decide_eq_true_eq] at hnum
  rcases hnum with ((((h | rfl) | rfl) | rfl) | rfl) | rfl
  · exact isTextChar_of_le (by have := hdigit h; omega)
  all_goals decide

theorem textSplit_literal {l s r : Str} (hl : l ∈ literals) (h : dropLit l s = some r) :
    TextSplit s r := by
  have hall : ∀ l ∈ literals, AllChars isTextChar l := by decide
  exact ⟨l, dropLit_eq_some h, hall l hl⟩

/-! ## 2. Strings -/

theorem le_of_hexVal {c : CodePoint} {x : Nat} (h : hexVal c = some x) : 0x20 ≤ c.val := by
  by_contra hlt
  have hnone : ∀ n, n < 0x20 → hexVal (Fin.ofNat 0x110000 n) = none := by decide
  have hc : c = Fin.ofNat 0x110000 c.val := by
    ext
    simp
  rw [hc, hnone c.val (by omega)] at h
  cases h

theorem textSplit_hex4 {a b c d : CodePoint} {u : Nat} (h : hex4 a b c d = some u) (s : Str) :
    TextSplit (0x5C :: 0x75 :: a :: b :: c :: d :: s) s := by
  unfold hex4 at h
  split at h
  · rename_i ha hb hc hd
    refine ⟨[0x5C, 0x75, a, b, c, d], rfl, ?_⟩
    simp only [allChars_cons, isTextChar_of_le (le_of_hexVal ha),
      isTextChar_of_le (le_of_hexVal hb), isTextChar_of_le (le_of_hexVal hc),
      isTextChar_of_le (le_of_hexVal hd), true_and]
    exact ⟨by decide, by decide, allChars_nil⟩
  · cases h

theorem le_of_unescape {c c' : CodePoint} (h : unescape c = some c') : 0x20 ≤ c.val := by
  by_contra hlt
  have hnone : ∀ n, n < 0x20 → unescape (Fin.ofNat 0x110000 n) = none := by decide
  have hc : c = Fin.ofNat 0x110000 c.val := by
    ext
    simp
  rw [hc, hnone c.val (by omega)] at h
  cases h

theorem textSplit_scanString (s : Str) : ∀ {t r : Str}, scanString s = .ok (t, r) →
    TextSplit s r := by
  fun_induction scanString s with
  | case1 => intro t r h; cases h
  | case2 a b c d s hx => intro t r h; cases h
  | case3 a b c d s u hx hu ih =>
    intro t r h
    obtain ⟨t', ht⟩ := joinHigh_eq_ok h
    exact (textSplit_hex4 hx s).trans (ih ht)
  | case4 a b c d s u hx hu ih =>
    intro t r h
    obtain ⟨t', ht⟩ := consChar_eq_ok h
    exact (textSplit_hex4 hx s).trans (ih ht)
  | case5 c s hno c' hc ih =>
    intro t r h
    obtain ⟨t', ht⟩ := consChar_eq_ok h
    exact ((ih ht).cons (isTextChar_of_le (le_of_unescape hc))).cons (by decide)
  | case6 => intro t r h; cases h
  | case7 s =>
    intro t r h
    cases h
    exact (TextSplit.refl _).cons (by decide)
  | case8 => intro t r h; cases h
  | case9 c s hno1 hno2 h22 hplain ih =>
    intro t r h
    obtain ⟨t', ht⟩ := consChar_eq_ok h
    have hle : 0x20 ≤ c.val := not_lt.mp (fun hlt => hplain (.inl hlt))
    exact (ih ht).cons (isTextChar_of_le hle)

/-! ## 3. Documents -/

theorem textSplit_parseAtom {s r : Str} {d : Doc} (h : parseAtom s = .ok (d, r)) :
    TextSplit s r := by
  unfold parseAtom at h
  split at h
  · rename_i hl; cases h; exact textSplit_literal (by decide) hl
  split at h
  · rename_i hl; cases h; exact textSplit_literal (by decide) hl
  split at h
  · rename_i hl; cases h; exact textSplit_literal (by decide) hl
  split at h
  · rename_i hl; cases h; exact textSplit_literal (by decide) hl
  split at h
  · rename_i hl; cases h; exact textSplit_literal (by decide) hl
  split at h
  · rename_i hl; cases h; exact textSplit_literal (by decide) hl
  unfold parseNumber at h
  split at h
  · cases h
  · rename_i hn
    split at h
    · cases h
    · cases h; exact textSplit_number (readNumber_split hn)

mutual

theorem textSplit_parseValue : ∀ {fuel : Nat} {s r : Str} {d : Doc},
    parseValue fuel s = .ok (d, r) → TextSplit s r
  | 0, _, _, _, h => nomatch h
  | _ + 1, [], _, _, h => nomatch h
  | fuel + 1, c :: s, r, d, h => by
    rw [parseValue] at h
    split at h
    · rename_i h22
      split at h
      · rename_i hs
        cases h
        exact (textSplit_scanString s hs).cons (by rw [h22]; decide)
      · cases h
    split at h
    · rename_i h5B
      refine TextSplit.cons (by rw [h5B]; decide) ?_
      split at h
      · rename_i hs
        cases h
        exact textSplit_last hs (by decide)
      · split at h
        · rename_i hs
          cases h
          exact (textSplit_skipSpace s).trans (textSplit_parseItems hs)
        · cases h
    split at h
    · rename_i h7B
      refine TextSplit.cons (by rw [h7B]; decide) ?_
      split at h
      · rename_i hs
        cases h
        exact textSplit_last hs (by decide)
      · split at h
        · rename_i hs
          cases h
          exact (textSplit_skipSpace s).trans (textSplit_parseMembers hs)
        · cases h
    · exact textSplit_parseAtom h

theorem textSplit_parseItems : ∀ {fuel : Nat} {s r : Str} {ds : List Doc},
    parseItems fuel s = .ok (ds, r) → TextSplit s r
  | 0, _, _, _, h => nomatch h
  | fuel + 1, s, r, ds, h => by
    rw [parseItems] at h
    cases hv : parseValue fuel s with
    | error e => rw [hv] at h; cases h
    | ok p =>
      obtain ⟨d, r'⟩ := p
      rw [hv] at h
      simp only at h
      refine (textSplit_parseValue hv).trans ?_
      split at h
      · rename_i hr
        cases h
        exact textSplit_last hr (by decide)
      · rename_i hr
        refine (textSplit_next hr (by decide)).trans ?_
        split at h
        · rename_i hi
          cases h
          exact textSplit_parseItems hi
        · cases h
      · cases h

theorem textSplit_parseMembers : ∀ {fuel : Nat} {s r : Str} {ms : List (Str × Doc)},
    parseMembers fuel s = .ok (ms, r) → TextSplit s r
  | 0, _, _, _, h => nomatch h
  | fuel + 1, s, r, ms, h => by
    rw [parseMembers.eq_def] at h
    simp only at h
    split at h
    · rename_i s'
      cases hs : scanString s' with
      | error e => rw [hs] at h; cases h
      | ok p =>
        obtain ⟨k, r1⟩ := p
        rw [hs] at h
        simp only at h
        refine ((textSplit_scanString s' hs).cons (by decide)).trans ?_
        split at h
        · rename_i hr
          refine (textSplit_next hr (by decide)).trans ?_
          split at h
          · cases h
          · rename_i hv
            refine (textSplit_parseValue hv).trans ?_
            split at h
            · rename_i hr'
              cases h
              exact textSplit_last hr' (by decide)
            · rename_i hr'
              refine (textSplit_next hr' (by decide)).trans ?_
              split at h
              · rename_i hm
                cases h
                exact textSplit_parseMembers hm
              · cases h
            · cases h
        · cases h
    · cases h

end

/-- Every character of a document is white space or no control character. -/
theorem loads_textChars {s : Str} {v : Json} (h : loads s = .ok v) : AllChars isTextChar s := by
  unfold loads at h
  split at h
  · cases h
  · rename_i d r hp
    split at h
    · rename_i hr
      have hrest := textSplit_skipSpace r
      rw [hr] at hrest
      obtain ⟨q, hq, hall⟩ := ((textSplit_skipSpace s).trans (textSplit_parseValue hp)).trans hrest
      rw [hq, List.append_nil]
      exact hall
    · cases h

/-- A boundary of `splitlines` in a document, apart from the ends of lines of text files, is beyond
ASCII. -/
theorem le_of_isLineBreak {c : CodePoint} (hbreak : isLineBreak c = true)
    (htext : isTextChar c = true) (hlf : c ≠ 0x0A) (hcr : c ≠ 0x0D) : 0x80 ≤ c.val := by
  have h0A : c.val ≠ 0x0A := fun h => hlf (Fin.ext h)
  have h0D : c.val ≠ 0x0D := fun h => hcr (Fin.ext h)
  have hspace : isJsonSpace c = true →
      c.val = 0x20 ∨ c.val = 0x09 ∨ c.val = 0x0A ∨ c.val = 0x0D := by
    intro h
    simp only [isJsonSpace, Bool.or_eq_true, decide_eq_true_eq] at h
    rcases h with ((rfl | rfl) | rfl) | rfl <;> decide
  simp only [isTextChar, Bool.or_eq_true, decide_eq_true_eq] at htext
  simp only [isLineBreak, Bool.or_eq_true, Bool.and_eq_true, decide_eq_true_eq, beq_iff_eq]
    at hbreak
  rcases htext with htext | htext
  · have := hspace htext
    omega
  · omega

/-- Reading on from where a beginning ends. -/
theorem quoteScan_trans (y : Str) : ∀ (p : Str) (q b : Bool), quoteScan q p = some b →
    quoteScan q (p ++ y) = quoteScan b y
  | [], q, b, h => by cases q <;> cases h <;> rfl
  | c :: p, false, b, h => by
    rw [quoteScan_false] at h
    rw [List.cons_append, quoteScan_false]
    by_cases h22 : c = 0x22
    · rw [if_pos h22] at h ⊢
      exact quoteScan_trans y p true b h
    · rw [if_neg h22] at h ⊢
      split at h
      · cases h
      · next hplain =>
        rw [if_neg hplain]
        exact quoteScan_trans y p false b h
  | 0x5C :: [], true, b, h => by cases h
  | 0x5C :: _ :: p, true, b, h => quoteScan_trans y p true b h
  | c :: p, true, b, h => by
    by_cases h5C : c = 0x5C
    · subst h5C
      cases p with
      | nil => cases h
      | cons d p => exact quoteScan_trans y p true b h
    · rw [quoteScan_true h5C] at h
      rw [List.cons_append, quoteScan_true h5C]
      by_cases h22 : c = 0x22
      · rw [if_pos h22] at h ⊢
        exact quoteScan_trans y p false b h
      · rw [if_neg h22] at h ⊢
        exact quoteScan_trans y p true b h

/-- What stands in front of a character beyond ASCII is no document. -/
theorem loads_break_cut {p x : Str} {c : CodePoint} {v : Json} (hc : 0x80 ≤ c.val)
    (h : loads (p ++ c :: x) = .ok v) (w : Json) : loads p ≠ .ok w := by
  intro hp
  have hscan := quoteScan_loads h
  rw [quoteScan_trans (c :: x) p false false (quoteScan_loads hp), quoteScan_false] at hscan
  have h22 : c ≠ 0x22 := by rintro rfl; exact absurd hc (by decide)
  simp [h22, hc] at hscan

/-- Without a quote in front of it, it is outside every string. -/
theorem quoteScan_unquoted {c : CodePoint} (hc : 0x80 ≤ c.val) (x : Str) : ∀ {p : Str},
    (∀ d ∈ p, d ≠ 0x22) → quoteScan false (p ++ c :: x) = none
  | [], _ => by
    have h22 : c ≠ 0x22 := by rintro rfl; exact absurd hc (by decide)
    simp [quoteScan_false, h22, hc]
  | d :: p, h => by
    have ih := quoteScan_unquoted hc x (p := p) (fun e he => h e (List.mem_cons_of_mem _ he))
    rw [List.cons_append, quoteScan_false, if_neg (h d List.mem_cons_self), ih]
    exact ite_self none

end Axg.Python
