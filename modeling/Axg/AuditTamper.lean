/-
# Tampered audit logs

What `verify_audit_chain` says of a file that was made from an honest sink's log by dropping,
reordering or repeating its lines, or by changing a record and keeping the stored hashes.

A selection of lines is accepted exactly when it is a beginning of the log whose records are one
line each: the chain says nothing of what came after its last record, so cutting the end off
goes unseen.  An edit is always seen, provided the edited record still has a hash; where it has
none, `canonical_hash` raises through the verifier.
-/
import Axg.AuditLog

namespace Axg

open Python General

variable {sha : Sha256}

/-! ## 1. Going through the lines of entries -/

/-- What the sink guarantees of each of its entries, and all that is asked of the log here: which
call an entry is of plays no part. -/
structure Sound (sha : Sha256) (e : Dict Json) : Prop where
  wf : (Json.obj e).Wf
  hasShortInts : (Json.obj e).hasShortInts = true
  authentic : Authentic sha e
  prev : ∃ p, prevHash e = .str p

theorem AuditInv.sound {s : AuditState} (h : AuditInv sha s) : ∀ e ∈ s.entries, Sound sha e :=
  fun e he => ⟨h.wf e he, h.hasShortInts e he, h.authentic e he,
    Linked.prevHash_str h.linked h.authentic e he⟩

/-- An entry that refers to the hash at hand lets the verifier go on to its own. -/
theorem verifyLine_entryText {e : Dict Json} (he : Sound sha e) {p : Str}
    (hp : prevHash e = .str p) :
    verifyLine sha (.str p) (entryText e) = .ok (some (recordHash e)) := by
  obtain ⟨hash, hc, hr⟩ := he.authentic
  obtain ⟨hprev, hrec⟩ := hashes_inKeyOrder he.wf hp hr
  exact (verifyLine_eq_some (notBlank_entryText e)).mpr
    ⟨_, lineRecord_eq_ok.mpr (loads_entryText he.wf he.hasShortInts), hprev.trans hp,
      ⟨hash, chainHash_inKeyOrder he.wf hc, hrec.trans hr⟩, hrec.symm⟩

/-- Any other is a break. -/
theorem verifyLine_entryText_ne {e : Dict Json} (he : Sound sha e) {p : Str}
    (hp : prevHash e ≠ .str p) : verifyLine sha (.str p) (entryText e) = .ok none := by
  obtain ⟨q, hq⟩ := he.prev
  obtain ⟨hash, -, hr⟩ := authentic_recordHash he.authentic
  obtain ⟨hprev, -⟩ := hashes_inKeyOrder he.wf hq hr
  have hb : ¬ strip (entryText e) = [] := by simpa [notBlank] using notBlank_entryText e
  have hpy : (prevHash (inKeyOrder e)).pyEq (.str p) = false :=
    Bool.eq_false_iff.mpr (fun hpy => hp (hprev.symm.trans (Json.pyEq_str_iff.mp hpy)))
  rw [verifyLine, if_neg hb, loads_entryText he.wf he.hasShortInts]
  simp only [hpy, ↓reduceIte]

theorem verifyLines_cons_some {p q : Json} {n : Nat} {line : Str} {lines : List Str}
    (h : verifyLine sha p line = .ok (some q)) :
    verifyLines sha p n (line :: lines) = verifyLines sha q (n + 1) lines := by
  rw [verifyLines, h]; rfl

/-- The lines of entries never make the verifier raise. -/
theorem verifyLines_isOk {es : List (Dict Json)} (h : ∀ e ∈ es, Sound sha e) (p : Str) (n : Nat) :
    ∃ r, verifyLines sha (.str p) n (es.flatMap entryLines) = .ok r := by
  induction es generalizing p n with
  | nil => exact ⟨_, rfl⟩
  | cons e es ih =>
    have he := h e (by simp)
    rw [List.flatMap_cons]
    by_cases hone : OneLine (entryText e)
    · rw [entryLines_of_oneLine hone, List.singleton_append]
      obtain ⟨hash, -, hr⟩ := authentic_recordHash he.authentic
      by_cases hp : prevHash e = .str p
      · rw [verifyLines_cons_some (verifyLine_entryText he hp), hr]
        exact ih (fun a ha => h a (by simp [ha])) hash (n + 1)
      · exact ⟨_, verifyLines_cons_none (verifyLine_entryText_ne he hp)⟩
    · obtain ⟨q, rest, hq, hb, hl⟩ := entryLines_broken_head he.hasShortInts hone
      rw [hq, List.cons_append]
      exact ⟨_, verifyLines_cons_none (verifyLine_broken hb hl)⟩

/-- Linked entries in front of any lines: the verifier comes through them, or has stopped at one
that is not one line. -/
theorem verifyLines_linked {es : List (Dict Json)} (h : ∀ e ∈ es, Sound sha e) {p : Str}
    (hlink : Linked prevHash recordHash (.str p) es) (n : Nat) (rest : List Str) :
    ((∀ e ∈ es, OneLine (entryText e)) ∧ ∃ m,
        verifyLines sha (.str p) n (es.flatMap entryLines ++ rest)
          = verifyLines sha (tip recordHash (.str p) es) m rest) ∨
      ((∃ e ∈ es, ¬ OneLine (entryText e)) ∧
        ∃ k, verifyLines sha (.str p) n (es.flatMap entryLines ++ rest) = .ok (false, some k)) := by
  induction es generalizing p n with
  | nil => exact Or.inl ⟨(fun _ h => nomatch h), n, rfl⟩
  | cons e es ih =>
    have he := h e (by simp)
    obtain ⟨hprev, hrest⟩ := hlink
    rw [List.flatMap_cons, List.append_assoc]
    by_cases hone : OneLine (entryText e)
    · rw [entryLines_of_oneLine hone, List.singleton_append]
      rw [verifyLines_cons_some (verifyLine_entryText he hprev), tip_cons]
      obtain ⟨hash, -, hr⟩ := authentic_recordHash he.authentic
      rw [hr] at hrest ⊢
      rcases ih (fun a ha => h a (by simp [ha])) hrest (n + 1) with
        ⟨hall, m, hm⟩ | ⟨⟨b, hb, hbad⟩, hk⟩
      · exact Or.inl ⟨fun a ha => (List.mem_cons.mp ha).elim (fun e => e ▸ hone) (hall a), m, hm⟩
      · exact Or.inr ⟨⟨b, by simp [hb], hbad⟩, hk⟩
    · obtain ⟨q, ls, hq, hb, hl⟩ := entryLines_broken_head he.hasShortInts hone
      rw [hq, List.cons_append]
      exact Or.inr ⟨⟨e, by simp, hone⟩, n, verifyLines_cons_none (verifyLine_broken hb hl)⟩

/-! ## 2. Selections -/

/-- A file made of entries of the log is accepted exactly when they are a beginning of it, one
line each. -/
theorem verify_selection_iff (hinj : CollisionFree sha) (hgen : NeverGenesis sha)
    {s : AuditState} (hs : AuditReachable sha s) {selection : List (Dict Json)}
    (hsub : ∀ e ∈ selection, e ∈ s.entries) :
    verifyAuditChain sha (linesText selection) = .ok (true, none) ↔
      selection <+: s.entries ∧ ∀ e ∈ selection, OneLine (entryText e) := by
  have hi := auditInv_reachable hs
  have hsound := hi.sound
  have hss : ∀ e ∈ selection, Sound sha e := fun e he => hsound e (hsub e he)
  rw [verifyAuditChain_true_iff]
  constructor
  · rintro ⟨rs, hrs, hlink, hauth⟩
    have hone := oneLine_of_fileRecords (fun e he => (hss e he).hasShortInts) hrs
    refine ⟨?_, hone⟩
    rw [fileRecords_linesText (fun e he => (hss e he).hasShortInts) (fun e he => (hss e he).wf)
      hone] at hrs
    cases hrs
    rw [linked_inKeyOrder_iff (fun e he => (hss e he).wf) (fun e he => (hss e he).authentic)
      (fun e he => (hss e he).prev)] at hlink
    -- a chain from the genesis hash among the entries of a chain is a beginning of it
    refine Linked.isPrefix hi.linked hlink
      (fun a ha => recordHash_ne_genesis hgen (hsound a ha).authentic) ?_ hsub
    intro a ha b hb h
    obtain ⟨p, hp⟩ := (hsound a ha).prev
    exact prevHash_of_recordHash_eq hinj (hsound a ha).wf (hsound b hb).wf (hsound a ha).authentic
      (hsound b hb).authentic hp h
  · rintro ⟨hpre, hone⟩
    refine ⟨_, fileRecords_linesText (fun e he => (hss e he).hasShortInts)
      (fun e he => (hss e he).wf) hone, ?_, ?_⟩
    · exact (linked_inKeyOrder_iff (fun e he => (hss e he).wf) (fun e he => (hss e he).authentic)
        (fun e he => (hss e he).prev)).mpr (hi.linked.of_isPrefix hpre)
    · intro e he
      obtain ⟨a, ha, rfl⟩ := List.mem_map.mp he
      exact (hss a ha).authentic.inKeyOrder (hss a ha).wf

theorem detected_selection_iff (hinj : CollisionFree sha) (hgen : NeverGenesis sha)
    {s : AuditState} (hs : AuditReachable sha s) {selection : List (Dict Json)}
    (hsub : ∀ e ∈ selection, e ∈ s.entries) :
    (∃ k, verifyAuditChain sha (linesText selection) = .ok (false, some k)) ↔
      ¬ (selection <+: s.entries ∧ ∀ e ∈ selection, OneLine (entryText e)) := by
  rw [← verify_selection_iff hinj hgen hs hsub]
  constructor
  · rintro ⟨k, hk⟩ ht
    rw [hk] at ht
    cases ht
  · intro hno
    have hss : ∀ e ∈ selection, Sound sha e :=
      fun e he => (auditInv_reachable hs).sound e (hsub e he)
    obtain ⟨r, hr⟩ := verifyLines_isOk hss genesisHash 1
    rw [← fileLines_linesText (fun e he => (hss e he).hasShortInts)] at hr
    have hresult : verifyAuditChain sha (linesText selection) = .ok (true, none) ∨ _ :=
      verifyLines_result (fileLines (linesText selection)) (.str genesisHash) 1
    rcases hresult with h | h | ⟨e, h⟩
    · exact absurd h hno
    · exact h
    · rw [hr] at h; cases h

/-! ## 3. Edits -/

/-- A line put in the place of an entry: an object on one line that stores the same two hashes
and is not the same canonical JSON. -/
structure EditOf (e : Dict Json) where
  line : Str
  entry : Dict Json
  oneLine : OneLine line
  parses : lineRecord line = .ok entry
  prevKept : entry.lookup prevHashKey = e.lookup prevHashKey
  hashKept : entry.lookup recordHashKey = e.lookup recordHashKey
  changed : ¬ ∃ t, canonicalJson (.obj e) = .ok t ∧ canonicalJson (.obj entry) = .ok t

/-- The file with one record edited. -/
def editedText (before after : List (Dict Json)) (line : Str) : Str :=
  linesText before ++ (line ++ 0x0A :: linesText after)

theorem fileLines_editedText {before after : List (Dict Json)} {line : Str}
    (hb : ∀ e ∈ before, (Json.obj e).hasShortInts = true)
    (ha : ∀ e ∈ after, (Json.obj e).hasShortInts = true) (hline : OneLine line) :
    fileLines (editedText before after line)
      = before.flatMap entryLines ++ line :: after.flatMap entryLines := by
  have hcr : ∀ {es : List (Dict Json)}, (∀ e ∈ es, (Json.obj e).hasShortInts = true) →
      ∀ c ∈ linesText es, c ≠ 0x0D := by
    intro es hes c hc
    obtain ⟨e, he, hce⟩ := List.mem_flatMap.mp hc
    rintro rfl
    rcases List.mem_append.mp hce with hm | hm
    · exact absurd (isRawBreak_of_mem_entryText (hes e he) hm (by decide)) (by decide)
    · exact absurd (List.mem_singleton.mp hm) (by decide)
  have hnl : universalNewlines (editedText before after line) = editedText before after line := by
    refine universalNewlines_eq_self (fun c hc => ?_)
    rcases List.mem_append.mp hc with hc | hc
    · exact hcr hb c hc
    rcases List.mem_append.mp hc with hc | hc
    · rintro rfl
      exact absurd (hline _ hc) (by decide)
    rcases List.mem_cons.mp hc with rfl | hc
    · decide
    · exact hcr ha c hc
  have hafter := splitlines_linesText_append after []
  rw [List.append_nil] at hafter
  have hone : splitlines (line ++ [0x0A]) = [line] :=
    splitlines_line (by decide) (by decide) (fun d hd => by simpa using hline d hd)
  rw [fileLines, hnl, editedText, splitlines_linesText_append,
    splitlines_append_break (by decide) (by decide), hone, hafter]
  simp [splitlines]

/-- An object has a hash exactly when its numbers are finite and its strings Unicode, whatever
is stored as its own hash. -/
theorem chainHash_isOk_iff {e : Dict Json} (hw : (Json.obj e).Wf) {h : Str}
    (hh : AllChars isHexDigit h) (hl : e.lookup recordHashKey = some (.str h)) :
    (∃ k, chainHash sha e = .ok k) ↔
      (Json.obj e).isText = true ∧ (Json.obj e).hasDoubles = true := by
  have hperm := Dict.perm_cons_without (Json.wf_obj.mp hw).1 hl
  have hkey := keys_isScalar.2.2
  have hstr : IsScalar h := isScalar_of_ascii isHexDigit_lt hh
  rw [chainHash, canonicalHash_isOk_iff, Json.isText, Json.hasDoubles, Json.every_obj,
    Json.every_obj, Json.every_obj, Json.every_obj, decide_eq_true_iff, decide_eq_true_iff]
  have hsub : ∀ p ∈ e.without recordHashKey, p ∈ e := fun p hp => List.mem_of_mem_filter hp
  constructor
  · rintro ⟨⟨hk, ht⟩, -, hd⟩
    refine ⟨⟨fun k hm => ?_, fun p hp => ?_⟩, rfl, fun p hp => ?_⟩
    · rcases List.mem_cons.mp ((hperm.map Prod.fst).mem_iff.mp hm) with rfl | hm
      · exact hkey
      · exact hk k hm
    · rcases List.mem_cons.mp (hperm.mem_iff.mp hp) with rfl | hp
      · exact decide_eq_true hstr
      · exact ht p hp
    · rcases List.mem_cons.mp (hperm.mem_iff.mp hp) with rfl | hp
      · rfl
      · exact hd p hp
  · rintro ⟨⟨hk, ht⟩, -, hd⟩
    refine ⟨⟨fun k hm => ?_, fun p hp => ht p (hsub p hp)⟩, rfl, fun p hp => hd p (hsub p hp)⟩
    obtain ⟨p, hp, rfl⟩ := List.mem_map.mp hm
    exact hk _ (List.mem_map_of_mem (hsub p hp))

/-- Where the verifier meets the edited line: it stops, or raises if the record has no hash. -/
theorem verifyLine_edit (hinj : CollisionFree sha) {e : Dict Json} (he : Sound sha e)
    (edit : EditOf e) {p : Str} (hp : prevHash e = .str p) :
    (((Json.obj edit.entry).isText = true ∧ (Json.obj edit.entry).hasDoubles = true) ∧
        verifyLine sha (.str p) edit.line = .ok none) ∨
      (¬ ((Json.obj edit.entry).isText = true ∧ (Json.obj edit.entry).hasDoubles = true) ∧
        ∃ x, verifyLine sha (.str p) edit.line = .error x) := by
  obtain ⟨line, entry, hone, hparse, hprevKept, hhashKept, hchanged⟩ := edit
  simp only
  obtain ⟨hash, hc, hr⟩ := he.authentic
  have hhash := isHex_of_chainHash hc
  have hw := lineRecord_wf hparse
  have hl : entry.lookup recordHashKey = some (.str hash) := hhashKept.trans (recordHash_eq_str hr)
  have hprev : prevHash entry = .str p := by rw [prevHash, hprevKept, ← prevHash, hp]
  have hpy : (prevHash entry).pyEq (.str p) = true := Json.pyEq_str_iff.mpr hprev
  have hload := lineRecord_eq_ok.mp hparse
  have hblank : ¬ strip line = [] := by
    intro hs
    have hspace : ∀ c ∈ line, isSpace c = true := by
      intro c hc'
      by_contra hns
      exact strip_ne_nil (by simpa using hns) hc' hs
    exact absurd hload (loads_blank hspace _)
  have hhashes : (∃ k, chainHash sha entry = .ok k) ↔ _ := chainHash_isOk_iff hw hhash hl
  rw [← hhashes, verifyLine, if_neg hblank, hload]
  simp only [hpy, Bool.true_eq_false, ↓reduceIte]
  -- the stored hash is kept and the record is not, so the two cannot fit
  cases hc' : chainHash sha entry with
  | error x =>
    refine Or.inr ⟨?_, x, rfl⟩
    rintro ⟨k, hk⟩
    cases hk
  | ok hash' =>
    refine Or.inl ⟨⟨hash', rfl⟩, ?_⟩
    have hne : recordHash entry ≠ .str hash' := by
      intro hr'
      have hauth' : Authentic sha entry := ⟨hash', hc', hr'⟩
      have hrr : recordHash e = recordHash entry := by rw [recordHash, recordHash, hhashKept]
      exact hchanged (canonicalJson_of_recordHash_eq hinj he.wf hw he.authentic hauth' hrr)
    have hpy' : (recordHash entry).pyEq (.str hash') = false :=
      Bool.eq_false_iff.mpr (fun h => hne (Json.pyEq_str_iff.mp h))
    rw [ok_bind, if_pos hpy']
    rfl

theorem detected_edit_iff (hinj : CollisionFree sha) {s : AuditState}
    (hs : AuditReachable sha s) {before after : List (Dict Json)} {e : Dict Json}
    (hsplit : s.entries = before ++ e :: after) (edit : EditOf e) :
    (∃ k, verifyAuditChain sha (editedText before after edit.line) = .ok (false, some k)) ↔
      ((Json.obj edit.entry).isText = true ∧ (Json.obj edit.entry).hasDoubles = true) ∨
        ∃ b ∈ before, ¬ OneLine (entryText b) := by
  have hi := auditInv_reachable hs
  have hsound : ∀ a ∈ before ++ e :: after, Sound sha a := hsplit ▸ hi.sound
  have hbefore : ∀ a ∈ before, Sound sha a := fun a ha => hsound a (by simp [ha])
  have hafter : ∀ a ∈ after, Sound sha a := fun a ha => hsound a (by simp [ha])
  have hlink := hi.linked
  rw [hsplit, linked_append] at hlink
  obtain ⟨hlinkb, hprev, -⟩ := hlink
  obtain ⟨p, -, htip⟩ := tip_isHex (fun a ha => (hbefore a ha).authentic)
  rw [htip] at hprev
  rw [verifyAuditChain, fileLines_editedText (fun a ha => (hbefore a ha).hasShortInts)
    (fun a ha => (hafter a ha).hasShortInts) edit.oneLine]
  rcases verifyLines_linked hbefore hlinkb 1 (edit.line :: after.flatMap entryLines) with
    ⟨hall, m, hm⟩ | ⟨hbad, hk⟩
  · rw [hm, htip]
    have hnone : ¬ ∃ b ∈ before, ¬ OneLine (entryText b) := by
      rintro ⟨b, hb, hno⟩
      exact hno (hall b hb)
    rcases verifyLine_edit hinj (hsound e (by simp)) edit hprev with ⟨hyes, hv⟩ | ⟨hno, x, hv⟩
    · exact iff_of_true ⟨m, verifyLines_cons_none hv⟩ (Or.inl hyes)
    · refine iff_of_false ?_ (fun h => h.elim hno hnone)
      rintro ⟨k, hk⟩
      rw [verifyLines, hv] at hk
      cases hk
  · exact iff_of_true hk (Or.inr hbad)

/-! ## 4. Tampering -/

/-- A file made from the log: some of its lines, in any order and any number of times; or all of
them, with one record changed. -/
inductive Tampering (entries : List (Dict Json))
  | select (selection : List (Dict Json)) (hsub : ∀ e ∈ selection, e ∈ entries)
  | edit (before : List (Dict Json)) (e : Dict Json) (after : List (Dict Json))
      (hsplit : entries = before ++ e :: after) (edit : EditOf e)

namespace Tampering

variable {entries : List (Dict Json)}

/-- The tampered file. -/
def file : Tampering entries → Str
  | select selection _ => linesText selection
  | edit before _ after _ e => editedText before after e.line

/-- What the verifier can see: lines that are not a beginning of the log, a record that is more
than one line, or a changed record that still has a hash. -/
def Visible : Tampering entries → Prop
  | select selection _ =>
    ¬ (selection <+: entries ∧ ∀ e ∈ selection, OneLine (entryText e))
  | edit before _ _ _ e =>
    ((Json.obj e.entry).isText = true ∧ (Json.obj e.entry).hasDoubles = true) ∨
      ∃ b ∈ before, ¬ OneLine (entryText b)

end Tampering

/-- `verify_audit_chain` reports a line of a tampered log exactly when the tampering is visible.
Nothing in the file refers to what comes after, so a log that is cut after any record is a log;
any other selection of lines breaks a link.  An edit of one record breaks its hash, where the
record still has one. -/
theorem tampering_detected_iff (hinj : CollisionFree sha) (hgen : NeverGenesis sha)
    {s : AuditState} (hs : AuditReachable sha s) (tampering : Tampering s.entries) :
    (∃ k, verifyAuditChain sha tampering.file = .ok (false, some k)) ↔ tampering.Visible := by
  cases tampering with
  | select selection hsub => exact detected_selection_iff hinj hgen hs hsub
  | edit before e after hsplit edit => exact detected_edit_iff hinj hs hsplit edit

/-- The log of two calls. -/
theorem exists_twoNotes : ∃ s first second, AuditReachable (.ofTable noteDigests) s ∧
    s.finished = [(plainNote, noteTime), (plainNote, noteTime)] ∧ s.entries = [first, second] ∧
      first ≠ second ∧ OneLine (entryText first) := by
  obtain ⟨s, hs, -, hfin, -⟩ :=
    @exists_run (.ofTable noteDigests) [(plainNote, noteTime), (plainNote, noteTime)]
  have hi := auditInv_reachable hs
  have hwritten := hi.written
  rw [hfin] at hwritten
  obtain ⟨first, es, hw, htail, hes⟩ := List.forall₂_cons_left_iff.mp hwritten
  obtain ⟨second, es', hw', hnil, hes'⟩ := List.forall₂_cons_left_iff.mp htail
  rw [List.forall₂_nil_left_iff] at hnil
  subst hnil hes'
  refine ⟨s, first, second, hs, hfin, hes, ?_, ?_⟩
  · rintro rfl
    have hlink := hi.linked
    rw [hes] at hlink
    obtain ⟨hfirst, hsecond, -⟩ := hlink
    exact recordHash_ne_genesis noteDigests_lawful.2 hw.authentic (hsecond.symm.trans hfirst)
  · rw [oneLine_entryText_iff hw.hasShortInts, hw.noRawBreaks_iff]
    exact plainNote_hasNoRawBreaks

/-- The first record of two deleted. -/
theorem tampering_detected_iff_tail : ∃ s first second,
    AuditReachable (.ofTable noteDigests) s ∧ s.entries = [first, second] ∧
      ∃ k, verifyAuditChain (.ofTable noteDigests) (linesText [second]) = .ok (false, some k) := by
  obtain ⟨s, first, second, hs, -, hes, hne, -⟩ := exists_twoNotes
  refine ⟨s, first, second, hs, hes, ?_⟩
  have hsub : ∀ e ∈ [second], e ∈ s.entries := by simp [hes]
  refine (tampering_detected_iff noteDigests_lawful.1 noteDigests_lawful.2 hs
    (.select [second] hsub)).mpr ?_
  rintro ⟨hpre, -⟩
  rw [hes, List.cons_prefix_cons] at hpre
  exact hne hpre.1.symm

/-- The last record of two deleted. -/
theorem cut_log_accepted : ∃ s first second,
    AuditReachable (.ofTable noteDigests) s ∧ s.entries = [first, second] ∧
      verifyAuditChain (.ofTable noteDigests) (linesText [first]) = .ok (true, none) := by
  obtain ⟨s, first, second, hs, -, hes, -, hone⟩ := exists_twoNotes
  refine ⟨s, first, second, hs, hes, ?_⟩
  have hsub : ∀ e ∈ [first], e ∈ s.entries := by simp [hes]
  refine (verify_selection_iff noteDigests_lawful.1 noteDigests_lawful.2 hs hsub).mpr ⟨?_, ?_⟩
  · rw [hes]
    exact List.prefix_append [first] [second]
  · simpa using hone

end Axg
