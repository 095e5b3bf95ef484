/-
# What the audit verifier says of any text

A line of the file that is no JSON object, or whose record does not carry on the chain, is a
violation.  The verifier should answer for every text, and name the first line that is one.  It
differs in two ways.  `json.loads` and `canonical_hash` raise more than `JSONDecodeError`, and not
every JSON value has `get`.  And `splitlines` ends lines where the file has none: a record with such
a character in a string is torn, and the numbers behind the character are too high.
`verifyAuditChain_exact_iff` says exactly which texts get the answer that they should.
-/
import Axg.AuditCuts
import Axg.Python.JsonChars

namespace Axg

open Python General

variable {sha : Sha256}

/-! ## 1. The lines of the file -/

/-- The lines of a text file. -/
def physicalLines (file : Str) : List Str := (universalNewlines file).splitOn 0x0A

/-- The lines that `splitlines` makes of one. -/
def pieces (line : Str) : List Str := splitlines (line ++ [0x0A])

/-- The first of them. -/
def firstPiece (line : Str) : Str := line.takeWhile (fun c => !isLineBreak c)

theorem universalNewlines_ne : ∀ {s : Str}, ∀ c ∈ universalNewlines s, c ≠ 0x0D := by
  intro s
  fun_induction universalNewlines s with
  | case1 => intro c hc; cases hc
  | case2 s ih =>
    intro c hc
    rcases List.mem_cons.mp hc with rfl | hc
    · decide
    · exact ih c hc
  | case3 s hno ih =>
    intro c hc
    rcases List.mem_cons.mp hc with rfl | hc
    · decide
    · exact ih c hc
  | case4 d s hno hcr ih =>
    intro c hc
    rcases List.mem_cons.mp hc with rfl | hc
    · rintro rfl
      exact hcr rfl
    · exact ih c hc

/-- The end of a text makes no line of its own, or an empty one. -/
theorem splitlines_concat {s : Str} (hcr : ∀ c ∈ s, c ≠ 0x0D) :
    pieces s = splitlines s ∨ pieces s = splitlines s ++ [[]] := by
  induction s with
  | nil => exact .inr rfl
  | cons c s ih =>
    have hc : c ≠ 0x0D := hcr c List.mem_cons_self
    have ih := ih (fun d hd => hcr d (List.mem_cons_of_mem _ hd))
    rw [pieces] at ih ⊢
    rw [List.cons_append]
    by_cases hbreak : isLineBreak c = true
    · have hno : ∀ u r : Str, c :: u ≠ 0x0D :: 0x0A :: r := fun u r e => hc (List.cons.inj e).1
      rw [splitlines_break hbreak (hno _), splitlines_break hbreak (hno _)]
      rcases ih with ih | ih
      · exact .inl (by rw [ih])
      · exact .inr (by rw [ih, List.cons_append])
    · have hbreak : isLineBreak c = false := by simpa using hbreak
      rw [splitlines_cons hbreak, splitlines_cons hbreak]
      rcases ih with ih | ih
      · exact .inl (by rw [ih])
      · rw [ih]
        cases splitlines s with
        | nil => exact .inl rfl
        | cons l ls => exact .inr rfl

/-- Splitting a text is splitting its lines. -/
theorem splitlines_pieces : ∀ {s : Str}, (∀ c ∈ s, c ≠ 0x0D) →
    (s.splitOn 0x0A).flatMap pieces = splitlines s ∨
      (s.splitOn 0x0A).flatMap pieces = splitlines s ++ [[]] := by
  intro s
  -- on the length: what follows the first newline is shorter, but no tail of a list
  induction hlen : s.length using Nat.strong_induction_on generalizing s with
  | _ n ih =>
    intro hcr
    by_cases hmem : 0x0A ∈ s
    · obtain ⟨l, t, rfl, hl⟩ := List.eq_append_cons_of_mem hmem
      have hsplit : (l ++ 0x0A :: t).splitOn 0x0A = l :: t.splitOn 0x0A := by
        refine List.splitOnP_append_cons_of_forall_mem ?_ _ (by simp) _
        intro c hc
        simp only [beq_eq_false_iff_ne]
        rintro rfl
        exact hl hc
      have hlt : t.length < n := by
        rw [← hlen, List.length_append, List.length_cons]
        omega
      have ih := ih t.length hlt rfl
        (fun c hc => hcr c (List.mem_append_right _ (List.mem_cons_of_mem _ hc)))
      rw [hsplit, List.flatMap_cons, splitlines_append_break (by decide) (by decide) t l]
      rcases ih with ih | ih
      · exact .inl (by rw [ih, pieces])
      · exact .inr (by rw [ih, pieces, List.append_assoc])
    · have hsingle : s.splitOn 0x0A = [s] := by
        refine List.splitOnP_eq_singleton ?_
        intro c hc
        simp only [beq_eq_false_iff_ne]
        rintro rfl
        exact hmem hc
      rw [hsingle, List.flatMap_singleton]
      exact splitlines_concat hcr

theorem verifyLines_append_nil (lines : List Str) (p : Json) (n : Nat) :
    verifyLines sha p n (lines ++ [[]]) = verifyLines sha p n lines := by
  induction lines generalizing p n with
  | nil => rfl
  | cons line lines ih =>
    rw [List.cons_append, verifyLines, verifyLines]
    cases verifyLine sha p line with
    | error e => rfl
    | ok o =>
      cases o with
      | none => rfl
      | some next => exact ih next (n + 1)

/-- The verifier goes through the pieces of the lines. -/
theorem verifyAuditChain_pieces (file : Str) : verifyAuditChain sha file =
    verifyLines sha (.str genesisHash) 1 ((physicalLines file).flatMap pieces) := by
  rw [verifyAuditChain, fileLines, physicalLines]
  rcases splitlines_pieces universalNewlines_ne with h | h
  · rw [h]
  · rw [h, verifyLines_append_nil]

theorem mem_splitOn {s line : Str} (a : CodePoint) (h : line ∈ s.splitOn a) :
    ∀ c ∈ line, c ∈ s ∧ c ≠ a := by
  induction s generalizing line with
  | nil =>
    rw [List.splitOn_nil, List.mem_singleton] at h
    subst h
    intro c hc
    cases hc
  | cons d s ih =>
    obtain ⟨l, ls, hl⟩ := List.exists_cons_of_ne_nil (List.splitOnP_ne_nil (· == a) s)
    change s.splitOn a = l :: ls at hl
    have hcons : (d :: s).splitOn a = if d == a then [] :: s.splitOn a else (d :: l) :: ls := by
      change (d :: s).splitOnP (· == a) = _
      rw [List.splitOnP_cons_eq_if_modifyHead]
      change (if d == a then [] :: s.splitOn a else (s.splitOn a).modifyHead (List.cons d)) = _
      rw [hl]
      rfl
    rw [hcons] at h
    have hrest : ∀ line ∈ s.splitOn a, ∀ c ∈ line, c ∈ d :: s ∧ c ≠ a := by
      intro line hline c hc
      exact ⟨List.mem_cons_of_mem _ (ih hline c hc).1, (ih hline c hc).2⟩
    intro c hc
    by_cases hd : d = a
    · rw [if_pos (by simpa using hd)] at h
      rcases List.mem_cons.mp h with rfl | h
      · cases hc
      · exact hrest line h c hc
    · rw [if_neg (by simpa using hd)] at h
      rcases List.mem_cons.mp h with rfl | h
      · rcases List.mem_cons.mp hc with rfl | hc
        · exact ⟨List.mem_cons_self, hd⟩
        · exact hrest l (by rw [hl]; simp) c hc
      · exact hrest line (by rw [hl]; simp [h]) c hc

theorem physicalLines_ne {file line : Str} (h : line ∈ physicalLines file) :
    ∀ c ∈ line, c ≠ 0x0D ∧ c ≠ 0x0A :=
  fun c hc => ⟨universalNewlines_ne c (mem_splitOn _ h c hc).1, (mem_splitOn _ h c hc).2⟩

/-! ## 2. The pieces of a line -/

theorem pieces_of_oneLine {line : Str} (h : OneLine line) : pieces line = [line] :=
  splitlines_line (by decide) (by decide) (not_isLineBreak_of_oneLine h)

/-- A line with a boundary in it is its first piece, the boundary, and more pieces. -/
theorem pieces_of_not_oneLine {line : Str} (hcr : ∀ c ∈ line, c ≠ 0x0D) (h : ¬ OneLine line) :
    ∃ c x, isLineBreak c = true ∧ line = firstPiece line ++ c :: x ∧
      pieces line = firstPiece line :: pieces x := by
  have hsplit := List.takeWhile_append_dropWhile (p := fun c => !isLineBreak c) (l := line)
  cases hdrop : line.dropWhile (fun c => !isLineBreak c) with
  | nil =>
    refine absurd ?_ h
    intro c hc
    exact List.dropWhile_eq_nil_iff.mp hdrop c hc
  | cons c x =>
    rw [hdrop] at hsplit
    have hbreak : isLineBreak c = true := by
      have hhead := List.head_dropWhile_not (fun c => !isLineBreak c) (by rw [hdrop]; simp :
        line.dropWhile (fun c => !isLineBreak c) ≠ [])
      simpa [hdrop] using hhead
    have hc : c ≠ 0x0D := hcr c (by rw [← hsplit]; simp)
    refine ⟨c, x, hbreak, hsplit.symm, ?_⟩
    conv_lhs => rw [pieces, ← hsplit]
    rw [List.append_assoc, List.cons_append, splitlines_append_break hbreak hc,
      splitlines_line hbreak hc]
    · rfl
    · intro d hd
      simpa using List.mem_takeWhile_imp hd

theorem firstPiece_of_oneLine {line : Str} (h : OneLine line) : firstPiece line = line :=
  List.takeWhile_eq_self_iff.mpr h

theorem splitlines_ne_nil {s : Str} (h : s ≠ []) : splitlines s ≠ [] := by
  rw [splitlines.eq_def]
  split
  · exact absurd rfl h
  · exact List.cons_ne_nil _ _
  · split
    · exact List.cons_ne_nil _ _
    · split <;> exact List.cons_ne_nil _ _

/-- The pieces of a line, from its first one. -/
theorem exists_pieces {line : Str} (hcr : ∀ c ∈ line, c ≠ 0x0D) :
    ∃ more, pieces line = firstPiece line :: more ∧ (more = [] ↔ OneLine line) := by
  by_cases h : OneLine line
  · exact ⟨[], by rw [pieces_of_oneLine h, firstPiece_of_oneLine h], by simp [h]⟩
  · obtain ⟨c, x, -, -, hpieces⟩ := pieces_of_not_oneLine hcr h
    exact ⟨pieces x, hpieces, iff_of_false (splitlines_ne_nil (by simp)) h⟩

theorem mem_of_mem_splitlines {s l : Str} (hl : l ∈ splitlines s) : ∀ c ∈ l, c ∈ s := by
  fun_induction splitlines s generalizing l with
  | case1 => cases hl
  | case2 s ih =>
    rcases List.mem_cons.mp hl with rfl | hl
    · intro c hc
      cases hc
    · intro c hc
      exact List.mem_cons_of_mem _ (List.mem_cons_of_mem _ (ih hl c hc))
  | case3 d s hno hbreak ih =>
    rcases List.mem_cons.mp hl with rfl | hl
    · intro c hc
      cases hc
    · intro c hc
      exact List.mem_cons_of_mem _ (ih hl c hc)
  | case4 d s hno hbreak hnil ih =>
    rw [List.mem_singleton.mp hl]
    intro c hc
    rw [List.mem_singleton.mp hc]
    exact List.mem_cons_self
  | case5 d s hno hbreak l' ls hls ih =>
    intro c hc
    rcases List.mem_cons.mp hl with rfl | hl
    · rcases List.mem_cons.mp hc with rfl | hc
      · exact List.mem_cons_self
      · exact List.mem_cons_of_mem _ (ih (by rw [hls]; exact List.mem_cons_self) c hc)
    · exact List.mem_cons_of_mem _ (ih (by rw [hls]; exact List.mem_cons_of_mem _ hl) c hc)

theorem notBlank_eq_false_iff {line : Str} :
    notBlank line = false ↔ ∀ c ∈ line, isSpace c = true := by
  constructor
  · intro h c hc
    by_contra hspace
    have hne := strip_ne_nil (by simpa using hspace) hc
    simp [notBlank, hne] at h
  · intro h
    have hdrop : line.dropWhile isSpace = [] := List.dropWhile_eq_nil_iff.mpr h
    simp [notBlank, strip, hdrop]

/-- The pieces of a blank line are blank. -/
theorem verifyLines_blank {line : Str} (h : notBlank line = false) (p : Json) (n : Nat)
    (rest : List Str) : verifyLines sha p n (pieces line ++ rest) =
      verifyLines sha p (n + (pieces line).length) rest := by
  have hall : ∀ l ∈ pieces line, notBlank l = false := by
    intro l hl
    rw [notBlank_eq_false_iff]
    intro c hc
    rcases List.mem_append.mp (mem_of_mem_splitlines hl c hc) with hc | hc
    · exact notBlank_eq_false_iff.mp h c hc
    · rw [List.mem_singleton.mp hc]
      rfl
  generalize pieces line = ls at hall
  induction ls generalizing n with
  | nil => rfl
  | cons l ls ih =>
    rw [List.cons_append, verifyLines_cons_some (verifyLine_blank (hall l List.mem_cons_self)),
      ih (n + 1) (fun a ha => hall a (List.mem_cons_of_mem _ ha)), List.length_cons]
    congr 1
    omega

/-! ## 3. What the answer should be -/

/-- The line is the record that comes after the hash `p`, with the hash `next`. -/
def Links (sha : Sha256) (p : Str) (line : Str) (next : Str) : Prop :=
  ∃ entry, loads line = .ok (.obj entry) ∧ prevHash entry = .str p ∧
    chainHash sha entry = .ok next ∧ recordHash entry = .str next

/-- The lines that are not blank are records, each with the hash of the one before it. -/
inductive ChainOf (sha : Sha256) : Str → List Str → Str → Prop
  | nil (p : Str) : ChainOf sha p [] p
  | blank {p q line : Str} {lines : List Str} (hblank : notBlank line = false)
      (hrest : ChainOf sha p lines q) : ChainOf sha p (line :: lines) q
  | record {p next q line : Str} {lines : List Str} (hline : notBlank line = true)
      (hlinks : Links sha p line next) (hrest : ChainOf sha next lines q) :
      ChainOf sha p (line :: lines) q

def Violates (sha : Sha256) (p : Str) (line : Str) : Prop :=
  notBlank line = true ∧ ∀ next, ¬ Links sha p line next

/-- Every text is a chain, or has a first line that violates it. -/
theorem chain_or_violation (sha : Sha256) (lines : List Str) (p : Str) :
    (∃ q, ChainOf sha p lines q) ∨ ∃ before line after q, lines = before ++ line :: after ∧
      ChainOf sha p before q ∧ Violates sha q line := by
  induction lines generalizing p with
  | nil => exact .inl ⟨p, .nil p⟩
  | cons line lines ih =>
    by_cases hblank : notBlank line = true
    · by_cases hlinks : ∃ next, Links sha p line next
      · obtain ⟨next, hlinks⟩ := hlinks
        rcases ih next with ⟨q, hq⟩ | ⟨before, bad, after, q, rfl, hq, hbad⟩
        · exact .inl ⟨q, .record hblank hlinks hq⟩
        · exact .inr ⟨line :: before, bad, after, q, rfl, .record hblank hlinks hq, hbad⟩
      · exact .inr ⟨[], line, lines, p, rfl, .nil p, hblank, fun next h => hlinks ⟨next, h⟩⟩
    · have hblank : notBlank line = false := by simpa using hblank
      rcases ih p with ⟨q, hq⟩ | ⟨before, bad, after, q, rfl, hq, hbad⟩
      · exact .inl ⟨q, .blank hblank hq⟩
      · exact .inr ⟨line :: before, bad, after, q, rfl, .blank hblank hq, hbad⟩

/-- There is an answer, and it names the first violation, where the lines of the text are what
ends with a newline. -/
structure Exact (sha : Sha256) (file : Str) : Prop where
  returns : (verifyAuditChain sha file).isOk = true
  intact : ∀ last, ChainOf sha genesisHash (physicalLines file) last →
    verifyAuditChain sha file = .ok (true, none)
  broken : ∀ before line after last, physicalLines file = before ++ line :: after →
    ChainOf sha genesisHash before last → Violates sha last line →
      verifyAuditChain sha file = .ok (false, some (before.length + 1))

/-! ## 4. What the verifier makes of a line -/

/-- The line is reported: it is no JSON, or its hashes can be compared and are wrong. -/
def Reported (sha : Sha256) (p : Str) (line : Str) : Prop :=
  loads line = .error .jsonDecodeError ∨ ∃ entry, loads line = .ok (.obj entry) ∧
    (prevHash entry ≠ .str p ∨
      ∃ hash, chainHash sha entry = .ok hash ∧ recordHash entry ≠ .str hash)

theorem verifyLine_eq_none_iff {p line : Str} (hb : notBlank line = true) :
    verifyLine sha (.str p) line = .ok none ↔ Reported sha p line := by
  have hb : ¬ strip line = [] := by simpa [notBlank] using hb
  rw [verifyLine, if_neg hb, Reported]
  cases hl : loads line with
  | error e => cases e <;> simp
  | ok v =>
    cases v with
    | obj entry =>
      simp only [reduceCtorEq, Except.ok.injEq, Json.obj.injEq, exists_eq_left', false_or]
      by_cases hprev : prevHash entry = .str p
      · have hpy : (prevHash entry).pyEq (.str p) = true := Json.pyEq_str_iff.mpr hprev
        rw [if_neg (by simp [hpy])]
        cases hc : chainHash sha entry with
        | error e => simp [hprev]
        | ok hash =>
          rw [ok_bind]
          by_cases hrec : recordHash entry = .str hash
          · have hpy' : (recordHash entry).pyEq (.str hash) = true := Json.pyEq_str_iff.mpr hrec
            rw [if_neg (by simp [hpy'])]
            refine iff_of_false (by rintro ⟨⟩) ?_
            rintro (hne | ⟨hash', hc', hne⟩)
            · exact hne hprev
            · cases hc'
              exact hne hrec
          · have hpy' : (recordHash entry).pyEq (.str hash) = false :=
              Bool.eq_false_iff.mpr (fun h => hrec (Json.pyEq_str_iff.mp h))
            rw [if_pos hpy']
            exact iff_of_true rfl (.inr ⟨hash, rfl, hrec⟩)
      · have hpy : (prevHash entry).pyEq (.str p) = false :=
          Bool.eq_false_iff.mpr (fun h => hprev (Json.pyEq_str_iff.mp h))
        simp [hpy, hprev]
    | _ => simp

theorem verifyLine_links {p line next : Str} (hb : notBlank line = true)
    (h : Links sha p line next) : verifyLine sha (.str p) line = .ok (some (.str next)) := by
  obtain ⟨entry, hl, hprev, hc, hrec⟩ := h
  exact (verifyLine_eq_some hb).mpr
    ⟨entry, lineRecord_eq_ok.mpr hl, hprev, ⟨next, hc, hrec⟩, hrec.symm⟩

/-- The number that is reported is not before the lines. -/
theorem le_of_verifyLines {lines : List Str} {p : Json} {n k : Nat}
    (h : verifyLines sha p n lines = .ok (false, some k)) : n ≤ k := by
  induction lines generalizing p n with
  | nil => cases h
  | cons line lines ih =>
    rw [verifyLines] at h
    cases hv : verifyLine sha p line with
    | error e => rw [hv] at h; cases h
    | ok o =>
      rw [hv] at h
      cases o with
      | none => cases h; exact le_rfl
      | some next => exact (Nat.le_succ n).trans (ih h)

/-- Exactly the first line is reported. -/
theorem verifyLines_first_iff {line : Str} {lines : List Str} {p : Json} {n : Nat} :
    verifyLines sha p n (line :: lines) = .ok (false, some n) ↔
      verifyLine sha p line = .ok none := by
  rw [verifyLines]
  cases verifyLine sha p line with
  | error e => exact iff_of_false (by rintro ⟨⟩) (by rintro ⟨⟩)
  | ok o =>
    cases o with
    | none => exact iff_of_true rfl rfl
    | some next =>
      refine iff_of_false ?_ (by rintro ⟨⟩)
      intro h
      exact absurd (le_of_verifyLines h) (by omega)

/-! ## 5. Runs through the lines -/

/-- The records are one line each. -/
def Unbroken (lines : List Str) : Prop := ∀ line ∈ lines, notBlank line = true → OneLine line

theorem Unbroken.cons_iff {line : Str} {lines : List Str} :
    Unbroken (line :: lines) ↔ (notBlank line = true → OneLine line) ∧ Unbroken lines := by
  simp [Unbroken]

/-- A chain of records that are one line each: the verifier comes through. -/
theorem verifyLines_unbroken {p q : Str} {lines : List Str} (h : ChainOf sha p lines q)
    (hu : Unbroken lines) (n : Nat) (rest : List Str) :
    verifyLines sha (.str p) n (lines.flatMap pieces ++ rest) =
      verifyLines sha (.str q) (n + (lines.flatMap pieces).length) rest := by
  induction h generalizing n with
  | nil p => rfl
  | blank hblank hrest ih =>
    rw [Unbroken.cons_iff] at hu
    rw [List.flatMap_cons, List.append_assoc, verifyLines_blank hblank, ih hu.2,
      List.length_append, Nat.add_assoc]
  | record hline hlinks hrest ih =>
    rw [Unbroken.cons_iff] at hu
    rw [List.flatMap_cons, List.append_assoc, pieces_of_oneLine (hu.1 hline),
      List.singleton_append, verifyLines_cons_some (verifyLine_links hline hlinks), ih hu.2,
      List.length_append, List.length_singleton, Nat.add_assoc]

theorem ChainOf.split {p q : Str} {before after : List Str} {line : Str}
    (h : ChainOf sha p (before ++ line :: after) q) (hline : notBlank line = true) :
    ∃ m next, ChainOf sha p before m ∧ Links sha m line next := by
  induction before generalizing p with
  | nil =>
    cases h with
    | blank hblank hrest => rw [hblank] at hline; cases hline
    | record _ hlinks hrest => exact ⟨p, _, .nil p, hlinks⟩
  | cons first before ih =>
    cases h with
    | blank hblank hrest =>
      obtain ⟨m, next, hm, hlinks⟩ := ih hrest
      exact ⟨m, next, .blank hblank hm, hlinks⟩
    | record hfirst hl hrest =>
      obtain ⟨m, next, hm, hlinks⟩ := ih hrest
      exact ⟨m, next, .record hfirst hl hm, hlinks⟩

/-- The first record that is torn. -/
theorem exists_torn {lines : List Str} (h : ¬ Unbroken lines) : ∃ before torn after,
    lines = before ++ torn :: after ∧ Unbroken before ∧ notBlank torn = true ∧ ¬ OneLine torn := by
  induction lines with
  | nil => exact absurd (fun _ hl => nomatch hl) h
  | cons line lines ih =>
    by_cases hline : notBlank line = true → OneLine line
    · obtain ⟨before, torn, after, rfl, hu, hb, hnot⟩ :=
        ih (fun hu => h (Unbroken.cons_iff.mpr ⟨hline, hu⟩))
      exact ⟨line :: before, torn, after, rfl, Unbroken.cons_iff.mpr ⟨hline, hu⟩, hb, hnot⟩
    · rw [Classical.not_imp] at hline
      exact ⟨[], line, lines, rfl, (fun _ hl => nomatch hl), hline.1, hline.2⟩

theorem torn_unique {b b' r r' : List Str} {t t' : Str} (h : b ++ t :: r = b' ++ t' :: r')
    (hb : Unbroken b) (hb' : Unbroken b') (ht : ¬ (notBlank t = true → OneLine t))
    (ht' : ¬ (notBlank t' = true → OneLine t')) : b = b' ∧ t = t' := by
  induction b generalizing b' with
  | nil =>
    cases b' with
    | nil => exact ⟨rfl, (List.cons.inj h).1⟩
    | cons l b' =>
      obtain ⟨rfl, -⟩ := List.cons.inj h
      exact absurd (hb' t List.mem_cons_self) ht
  | cons l b ih =>
    cases b' with
    | nil =>
      obtain ⟨rfl, -⟩ := List.cons.inj h
      exact absurd (hb l List.mem_cons_self) ht'
    | cons l' b' =>
      obtain ⟨rfl, htail⟩ := List.cons.inj h
      obtain ⟨rfl, rfl⟩ := ih htail (Unbroken.cons_iff.mp hb).2 (Unbroken.cons_iff.mp hb').2
      exact ⟨rfl, rfl⟩

theorem length_le_pieces {lines : List Str} (hcr : ∀ line ∈ lines, ∀ c ∈ line, c ≠ 0x0D) :
    lines.length ≤ (lines.flatMap pieces).length ∧
      ((lines.flatMap pieces).length = lines.length ↔ ∀ line ∈ lines, OneLine line) := by
  induction lines with
  | nil => simp
  | cons line lines ih =>
    obtain ⟨hle, hiff⟩ := ih (fun l hl => hcr l (List.mem_cons_of_mem _ hl))
    obtain ⟨more, hpieces, hmore⟩ := exists_pieces (hcr line List.mem_cons_self)
    rw [List.flatMap_cons, hpieces, List.length_append, List.length_cons, List.length_cons]
    refine ⟨by omega, ?_⟩
    rw [List.forall_mem_cons, ← hmore, ← hiff, ← List.length_eq_zero_iff]
    omega

/-- The first piece of a torn record is no JSON. -/
theorem firstPiece_torn {p line next : Str} (hlinks : Links sha p line next)
    (hne : ∀ c ∈ line, c ≠ 0x0D ∧ c ≠ 0x0A) (hnot : ¬ OneLine line) :
    notBlank (firstPiece line) = true ∧ ∀ v, loads (firstPiece line) ≠ .ok v := by
  obtain ⟨entry, hl, -⟩ := hlinks
  obtain ⟨c, x, hbreak, hline, -⟩ := pieces_of_not_oneLine (fun c hc => (hne c hc).1) hnot
  have hmem : c ∈ line := by
    rw [hline]
    simp
  have hle : 0x80 ≤ c.val :=
    le_of_isLineBreak hbreak (loads_textChars hl c hmem) (hne c hmem).2 (hne c hmem).1
  rw [hline] at hl
  refine ⟨?_, loads_break_cut hle hl⟩
  by_contra hblank
  rw [Bool.not_eq_true, notBlank_eq_false_iff] at hblank
  have hnone := quoteScan_unquoted hle x (p := firstPiece line) (fun d hd h22 => by
    rw [h22] at hd
    exact absurd (hblank _ hd) (by decide))
  rw [quoteScan_loads hl] at hnone
  cases hnone

/-- So the verifier goes no further. -/
theorem verifyLines_torn {p line next : Str} (hlinks : Links sha p line next)
    (hne : ∀ c ∈ line, c ≠ 0x0D ∧ c ≠ 0x0A) (hnot : ¬ OneLine line) (n : Nat) (rest : List Str) :
    verifyLines sha (.str p) n (pieces line ++ rest) ≠ .ok (true, none) ∧
      ∀ k, verifyLines sha (.str p) n (pieces line ++ rest) = .ok (false, some k) ↔
        loads (firstPiece line) = .error .jsonDecodeError ∧ k = n := by
  obtain ⟨hblank, hloads⟩ := firstPiece_torn hlinks hne hnot
  obtain ⟨c, x, -, -, hpieces⟩ := pieces_of_not_oneLine (fun c hc => (hne c hc).1) hnot
  have hb : ¬ strip (firstPiece line) = [] := by simpa [notBlank] using hblank
  rw [hpieces, List.cons_append, verifyLines, verifyLine, if_neg hb]
  cases hl : loads (firstPiece line) with
  | ok v => exact absurd hl (hloads v)
  | error e =>
    cases e with
    | jsonDecodeError =>
      refine ⟨by rintro ⟨⟩, fun k => ?_⟩
      constructor
      · rintro ⟨⟩
        exact ⟨rfl, rfl⟩
      · rintro ⟨-, rfl⟩
        rfl
    | _ => exact ⟨by rintro ⟨⟩, fun k => iff_of_false (by rintro ⟨⟩) (by rintro ⟨⟨⟩, -⟩)⟩

/-! ## 6. Which texts are answered exactly -/

/-- The first violation is reported under its number: the line, or what `splitlines` makes of it,
is reported, and nothing in front of it is split. -/
def ReportedAlone (sha : Sha256) (before : List Str) (last line : Str) : Prop :=
  (∀ l ∈ before, OneLine l) ∧ notBlank (firstPiece line) = true ∧
    Reported sha last (firstPiece line)

/-- A torn record in front of the violation is reported, and blank lines that are split make its
number that of the violation. -/
def ReportedByAccident (before : List Str) : Prop :=
  ∃ b torn r, before = b ++ torn :: r ∧ Unbroken b ∧ notBlank torn = true ∧ ¬ OneLine torn ∧
    loads (firstPiece torn) = .error .jsonDecodeError ∧ (b.flatMap pieces).length = before.length

structure Readable (sha : Sha256) (file : Str) : Prop where
  intact : ∀ last, ChainOf sha genesisHash (physicalLines file) last →
    Unbroken (physicalLines file)
  broken : ∀ before line after last, physicalLines file = before ++ line :: after →
    ChainOf sha genesisHash before last → Violates sha last line →
      ReportedAlone sha before last line ∨ ReportedByAccident before

section Lines

variable {p q : Str} {lines before : List Str}

/-- A chain is accepted when no record is torn. -/
theorem verifyLines_chain_iff (h : ChainOf sha p lines q)
    (hne : ∀ line ∈ lines, ∀ c ∈ line, c ≠ 0x0D ∧ c ≠ 0x0A) (n : Nat) :
    verifyLines sha (.str p) n (lines.flatMap pieces) = .ok (true, none) ↔ Unbroken lines := by
  constructor
  · intro hok
    by_contra hnot
    obtain ⟨b, torn, r, rfl, hu, hline, hone⟩ := exists_torn hnot
    obtain ⟨m, next, hm, hlinks⟩ := h.split hline
    rw [List.flatMap_append, List.flatMap_cons, verifyLines_unbroken hm hu] at hok
    exact (verifyLines_torn hlinks (hne torn (by simp)) hone _ _).1 hok
  · intro hu
    have hrun := verifyLines_unbroken h hu n []
    rw [List.append_nil] at hrun
    rw [hrun]
    rfl

/-- The number of the line behind a chain is reported. -/
theorem verifyLines_behind_iff {line : Str} {after : List Str} (h : ChainOf sha p before q)
    (hne : ∀ l ∈ before ++ line :: after, ∀ c ∈ l, c ≠ 0x0D ∧ c ≠ 0x0A) :
    verifyLines sha (.str p) 1 ((before ++ line :: after).flatMap pieces) =
        .ok (false, some (before.length + 1)) ↔
      ReportedAlone sha before q line ∨ ReportedByAccident before := by
  have hcr : ∀ l ∈ before, ∀ c ∈ l, c ≠ 0x0D := fun l hl c hc =>
    (hne l (List.mem_append_left _ hl) c hc).1
  obtain ⟨hle, hsingle⟩ := length_le_pieces hcr
  rw [List.flatMap_append, List.flatMap_cons]
  by_cases hu : Unbroken before
  · -- the verifier comes to the line
    have hnot : ¬ ReportedByAccident before := by
      rintro ⟨b, torn, r, rfl, -, hline, hone, -⟩
      exact hone (hu torn (by simp) hline)
    obtain ⟨more, hpieces, -⟩ :=
      @exists_pieces line (fun c hc => (hne line (by simp) c hc).1)
    rw [or_iff_left hnot, verifyLines_unbroken h hu, hpieces, List.cons_append]
    constructor
    · intro hreport
      have hnumber := le_of_verifyLines hreport
      have hlength : (before.flatMap pieces).length = before.length := by omega
      rw [hlength, Nat.add_comm 1, verifyLines_first_iff] at hreport
      have hblank : notBlank (firstPiece line) = true := by
        by_contra hblank
        rw [verifyLine_blank (by simpa using hblank)] at hreport
        cases hreport
      exact ⟨hsingle.mp hlength, hblank, (verifyLine_eq_none_iff hblank).mp hreport⟩
    · rintro ⟨hone, hblank, hreported⟩
      rw [hsingle.mpr hone, Nat.add_comm 1, verifyLines_first_iff]
      exact (verifyLine_eq_none_iff hblank).mpr hreported
  · -- it stops at the first torn record
    have hnot : ¬ ReportedAlone sha before q line :=
      fun halone => hu (fun l hl _ => halone.1 l hl)
    obtain ⟨b, torn, r, rfl, hub, hline, hone⟩ := exists_torn hu
    obtain ⟨m, next, hm, hlinks⟩ := h.split hline
    have htorn := (verifyLines_torn hlinks (hne torn (by simp)) hone
      (1 + (b.flatMap pieces).length) (r.flatMap pieces ++ (pieces line ++ after.flatMap pieces))).2
        ((b ++ torn :: r).length + 1)
    rw [or_iff_right hnot, List.flatMap_append, List.flatMap_cons, List.append_assoc,
      verifyLines_unbroken hm hub, List.append_assoc, htorn]
    constructor
    · rintro ⟨hloads, hnumber⟩
      exact ⟨b, torn, r, rfl, hub, hline, hone, hloads, by omega⟩
    · rintro ⟨b', torn', r', heq, hub', hline', hone', hloads, hnumber⟩
      obtain ⟨rfl, rfl⟩ := torn_unique heq hub hub' (fun h => hone (h hline))
        (fun h => hone' (h hline'))
      exact ⟨hloads, by omega⟩

end Lines

/-- The verifier answers a text exactly when it is readable.

What it ought to say is read off the lines that the sink writes, which end with a newline and
with nothing else.  `splitlines` ends lines at other characters too, so a record with one of them
in a string is torn; and a line that is JSON but no object, or has a number that cannot be
hashed, raises where it should be the first violation. -/
theorem verifyAuditChain_exact_iff (sha : Sha256) (file : Str) :
    Exact sha file ↔ Readable sha file := by
  have hne : ∀ line ∈ physicalLines file, ∀ c ∈ line, c ≠ 0x0D ∧ c ≠ 0x0A :=
    fun line hline => physicalLines_ne hline
  constructor
  · intro h
    constructor
    · intro last hchain
      rw [← verifyLines_chain_iff hchain hne 1, ← verifyAuditChain_pieces]
      exact h.intact last hchain
    · intro before line after last hlines hchain hviolates
      have hanswer := h.broken before line after last hlines hchain hviolates
      rw [verifyAuditChain_pieces] at hanswer
      rw [hlines] at hanswer hne
      exact (verifyLines_behind_iff hchain hne).mp hanswer
  · intro h
    have hintact : ∀ last, ChainOf sha genesisHash (physicalLines file) last →
        verifyAuditChain sha file = .ok (true, none) := by
      intro last hchain
      rw [verifyAuditChain_pieces]
      exact (verifyLines_chain_iff hchain hne 1).mpr (h.intact last hchain)
    have hbroken : ∀ before line after last, physicalLines file = before ++ line :: after →
        ChainOf sha genesisHash before last → Violates sha last line →
          verifyAuditChain sha file = .ok (false, some (before.length + 1)) := by
      intro before line after last hlines hchain hviolates
      rw [verifyAuditChain_pieces]
      rw [hlines] at hne ⊢
      exact (verifyLines_behind_iff hchain hne).mpr
        (h.broken before line after last hlines hchain hviolates)
    refine ⟨?_, hintact, hbroken⟩
    -- every text is a chain or has a first violation, so there is an answer to each
    rcases chain_or_violation sha (physicalLines file) genesisHash with
      ⟨last, hchain⟩ | ⟨before, line, after, last, hlines, hchain, hviolates⟩
    · rw [hintact last hchain]
      rfl
    · rw [hbroken before line after last hlines hchain hviolates]
      rfl

/-- A file with an empty list in it. -/
theorem listLine_raises :
    verifyAuditChain plainSha (lit "[]") = .error .attributeError ∧
      ¬ Exact plainSha (lit "[]") := by
  have hraises : verifyAuditChain plainSha (lit "[]") = .error .attributeError := rfl
  refine ⟨hraises, ?_⟩
  intro h
  have hreturns := h.returns
  rw [hraises] at hreturns
  cases hreturns

end Axg
