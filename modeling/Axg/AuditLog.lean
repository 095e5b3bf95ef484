/-
# Honest audit logs

What every run of concurrent `record` calls and restarts leaves in the file.

`auditInv_reachable` holds of any records: the entries form a hash chain from the genesis hash,
and the file is their lines.  A restarted sink reads the last hash back, or raises: if the last
line was split by a boundary inside one of its strings, what is left of it is no JSON text
(`loads_suffix`).

Whether the verifier agrees depends on the strings.  `splitlines` knows line boundaries that
`json.dumps` writes as they are, U+0085, U+2028 and U+2029, and an entry that holds one is two
lines to the verifier.  `honestLog_iff`: the log verifies, and every call has written its
record, exactly when no finished record holds one of the three.
-/
import Axg.AuditChain

namespace Axg

open Python General

variable {sha : Sha256}

/-! ## 1. Sorted members -/

theorem isCanonical_sortKeys {v : Json} (h : isCanonical v = true) :
    isCanonical v.sortKeys = true := by
  induction v using Json.inductValue with
  | arr xs ih =>
    rw [isCanonical, Json.every_arr] at h
    rw [Json.sortKeys, Json.sortKeysItems_eq_map, isCanonical, Json.every_arr]
    intro v hv
    obtain ⟨w, hw, rfl⟩ := List.mem_map.mp hv
    exact ih w hw (h w hw)
  | obj ms ih =>
    rw [isCanonical, Json.every_obj, decide_eq_true_iff] at h
    rw [Json.sortKeys, Json.sortKeysMembers_eq_map, isCanonical, Json.every_obj,
      decide_eq_true_iff]
    constructor
    · intro k hk
      obtain ⟨p, hp, rfl⟩ := List.mem_map.mp hk
      obtain ⟨q, hq, rfl⟩ := List.mem_map.mp (mem_sortedBy.mp hp)
      exact h.1 q.1 (List.mem_map.mpr ⟨q, hq, rfl⟩)
    · intro p hp
      obtain ⟨q, hq, rfl⟩ := List.mem_map.mp (mem_sortedBy.mp hp)
      exact ih q hq (h.2 q hq)
  | _ => exact h

/-- Canonical JSON sorts the members itself. -/
theorem canonDoc_sortKeys {v : Json} (hw : v.Wf) (h : isCanonical v = true) :
    canonDoc v.sortKeys = canonDoc v := by
  induction v using Json.inductValue with
  | arr xs ih =>
    rw [isCanonical, Json.every_arr] at h
    rw [Json.wf_arr] at hw
    rw [Json.sortKeys, Json.sortKeysItems_eq_map, canonDoc, canonDoc, itemDocs_eq_map,
      itemDocs_eq_map, List.map_map]
    exact congrArg Doc.arr (List.map_congr_left (fun v hv => ih v hv (hw v hv) (h v hv)))
  | obj ms ih =>
    rw [isCanonical, Json.every_obj, decide_eq_true_iff] at h
    rw [Json.wf_obj] at hw
    rw [Json.sortKeys, Json.sortKeysMembers_eq_map, canonDoc, canonDoc]
    congr 1
    have hmap : memberDocs (ms.map (fun p => (p.1, p.2.sortKeys))) = memberDocs ms := by
      rw [memberDocs_eq_map, memberDocs_eq_map, List.map_map]
      exact List.map_congr_left (fun p hp => by simp [ih p hp (hw.2 p hp) (h.2 p hp)])
    have hperm : (memberDocs ms).Perm
        (memberDocs (sortedBy Prod.fst (ms.map (fun p => (p.1, p.2.sortKeys))))) := by
      rw [← hmap, memberDocs_eq_map, memberDocs_eq_map]
      exact (sortedBy_perm Prod.fst _).symm.map _
    refine (sortedMembers_eq hperm (keys_memberDocs ms ▸ hw.1) (fun p hp => ?_)).symm
    have hk : p.1 ∈ Dict.keys ms := keys_memberDocs ms ▸ List.mem_map_of_mem hp
    exact h.1 _ hk
  | _ => rfl

/-- The members of an object as `json.dumps` orders them. -/
def inKeyOrder (d : Dict Json) : Dict Json := sortedBy Prod.fst (Json.sortKeysMembers d)

theorem sortKeys_obj (d : Dict Json) : (Json.obj d).sortKeys = .obj (inKeyOrder d) := rfl

theorem inKeyOrder_perm (d : Dict Json) :
    (inKeyOrder d).Perm (d.map (fun p => (p.1, p.2.sortKeys))) := by
  rw [inKeyOrder, Json.sortKeysMembers_eq_map]
  exact sortedBy_perm _ _

theorem lookup_inKeyOrder {d : Dict Json} (hd : (Dict.keys d).Nodup) (k : Str) :
    (inKeyOrder d).lookup k = (d.lookup k).map Json.sortKeys := by
  have hperm := inKeyOrder_perm d
  have hmapped : (Dict.keys (d.map (fun p => (p.1, p.2.sortKeys)))).Nodup :=
    Dict.keys_map Json.sortKeys d ▸ hd
  have hnodup : (Dict.keys (inKeyOrder d)).Nodup := (hperm.map Prod.fst).nodup_iff.mpr hmapped
  rw [← Dict.lookup_map]
  cases hv : List.lookup k (d.map (fun p => (p.1, p.2.sortKeys))) with
  | some v =>
    exact (Dict.lookup_eq_some_iff hnodup).mpr (hperm.mem_iff.mpr (Dict.lookup_mem hv))
  | none =>
    rw [Dict.lookup_eq_none_iff] at hv ⊢
    exact fun hm => hv ((hperm.map Prod.fst).mem_iff.mp hm)

/-- Sorting the members of an entry does not change its hash. -/
theorem chainHash_inKeyOrder {e : Dict Json} {h : Str} (hw : (Json.obj e).Wf)
    (hc : chainHash sha e = .ok h) : chainHash sha (inKeyOrder e) = .ok h := by
  obtain ⟨s, hs, hscalar, rfl⟩ := canonicalHash_eq_ok hc
  have hcan := isCanonical_of_eq_ok hs
  have hww := without_wf hw recordHashKey
  -- dropping `record_hash` and sorting commute up to the order, which the canonical text forgets
  have hperm : ((inKeyOrder e).without recordHashKey).Perm
      (inKeyOrder (e.without recordHashKey)) := by
    have hfilter : (e.map (fun p => (p.1, p.2.sortKeys))).filter (fun p => p.1 ≠ recordHashKey)
        = (e.without recordHashKey).map (fun p => (p.1, p.2.sortKeys)) := by
      rw [Dict.without, List.filter_map]; rfl
    have hleft := (inKeyOrder_perm e).filter (fun p => decide (p.1 ≠ recordHashKey))
    rw [hfilter] at hleft
    exact hleft.trans (inKeyOrder_perm (e.without recordHashKey)).symm
  have hsorted := isCanonical_sortKeys hcan
  rw [sortKeys_obj] at hsorted
  have hcan' : isCanonical (.obj ((inKeyOrder e).without recordHashKey)) = true := by
    rw [isCanonical, Json.every_obj, decide_eq_true_iff] at hsorted ⊢
    exact ⟨fun k hk => hsorted.1 k ((hperm.map Prod.fst).mem_iff.mp hk),
      fun p hp => hsorted.2 p (hperm.mem_iff.mp hp)⟩
  have hdoc : canonDoc (.obj ((inKeyOrder e).without recordHashKey))
      = canonDoc (.obj (e.without recordHashKey)) := by
    rw [← canonDoc_sortKeys hww hcan, sortKeys_obj, canonDoc, canonDoc]
    congr 1
    have hkeys : Dict.keys ((inKeyOrder e).without recordHashKey)
        = ((inKeyOrder e).without recordHashKey).map Prod.fst := rfl
    have hnodup : (Dict.keys (memberDocs ((inKeyOrder e).without recordHashKey))).Nodup := by
      rw [keys_memberDocs, hkeys, (hperm.map Prod.fst).nodup_iff]
      rw [((inKeyOrder_perm (e.without recordHashKey)).map Prod.fst).nodup_iff, List.map_map]
      exact (Json.wf_obj.mp hww).1
    have hdocs : (memberDocs ((inKeyOrder e).without recordHashKey)).Perm
        (memberDocs (inKeyOrder (e.without recordHashKey))) := by
      rw [memberDocs_eq_map, memberDocs_eq_map]
      exact hperm.map _
    refine sortedMembers_eq hdocs hnodup (fun p hp => ?_)
    rw [isCanonical, Json.every_obj, decide_eq_true_iff] at hcan'
    refine hcan'.1 _ ?_
    have hk := List.mem_map_of_mem (f := Prod.fst) hp
    have hkm := keys_memberDocs ((inKeyOrder e).without recordHashKey)
    rw [Dict.keys, Dict.keys] at hkm
    rwa [hkm] at hk
  have htext := canonicalJson_eq_render hcan'
  rw [hdoc, ← canonicalJson_eq_render hcan, hs] at htext
  exact canonicalHash_of_isScalar htext hscalar

/-! ## 2. What a call writes -/

/-- The entry of a record: its members with `timestamp`, `prev_hash` and `record_hash` set. -/
def extendedEntry (log : AuditRecord) (timestamp : Timestamp) (prev hash : Str) : Dict Json :=
  (stamped log.members timestamp (.str prev)).set recordHashKey (.str hash)

/-- An entry that the sink wrote for a call. -/
def Written (sha : Sha256) (call : AuditRecord × Timestamp) (entry : Dict Json) : Prop :=
  ∃ prev hash, AllChars isHexDigit prev ∧
    chainHash sha (stamped call.1.members call.2 (.str prev)) = .ok hash ∧
    entry = extendedEntry call.1 call.2 prev hash

theorem timestampKey_ne : timestampKey ≠ prevHashKey ∧ timestampKey ≠ recordHashKey := by decide

theorem mem_stamped {log : AuditRecord} {t : Timestamp} {v : Json} {p : Str × Json}
    (h : p ∈ stamped log.members t v) :
    p = (prevHashKey, v) ∨ p = (timestampKey, .str t.text) ∨ p ∈ log.members :=
  (Dict.mem_set h).imp_right Dict.mem_set

theorem nodup_members (log : AuditRecord) : (Dict.keys log.members).Nodup :=
  (Json.wf_obj.mp log.wf).1

theorem nodup_stamped (log : AuditRecord) (t : Timestamp) (v : Json) :
    (Dict.keys (stamped log.members t v)).Nodup :=
  Dict.nodup_set _ _ (Dict.nodup_set _ _ (nodup_members log))

/-- Every member of an entry is one of the three that the sink sets, or one of the record
under another key. -/
theorem mem_extendedEntry_iff {log : AuditRecord} {t : Timestamp} {prev hash : Str}
    {p : Str × Json} : p ∈ extendedEntry log t prev hash ↔
      p = (recordHashKey, .str hash) ∨ p = (prevHashKey, .str prev) ∨
        p = (timestampKey, .str t.text) ∨ (p.1 ≠ recordHashKey ∧ p.1 ≠ prevHashKey ∧
          p.1 ≠ timestampKey ∧ p ∈ log.members) := by
  rw [extendedEntry, Dict.mem_set_iff (nodup_stamped log t _), stamped,
    Dict.mem_set_iff (Dict.nodup_set _ _ (nodup_members log)),
    Dict.mem_set_iff (nodup_members log)]
  have h1 := prevHashKey_ne
  obtain ⟨h2, h3⟩ := timestampKey_ne
  constructor
  · rintro (h | ⟨hr, h | ⟨hp, h | ⟨ht, h⟩⟩⟩)
    · exact Or.inl h
    · exact Or.inr (Or.inl h)
    · exact Or.inr (Or.inr (Or.inl h))
    · exact Or.inr (Or.inr (Or.inr ⟨hr, hp, ht, h⟩))
  · rintro (rfl | rfl | rfl | ⟨hr, hp, ht, h⟩)
    · exact Or.inl rfl
    · exact Or.inr ⟨h1, Or.inl rfl⟩
    · exact Or.inr ⟨h3, Or.inr ⟨h2, Or.inl rfl⟩⟩
    · exact Or.inr ⟨hr, Or.inr ⟨hp, Or.inr ⟨ht, h⟩⟩⟩

theorem wf_extendedEntry (log : AuditRecord) (t : Timestamp) (prev hash : Str) :
    (Json.obj (extendedEntry log t prev hash)).Wf := by
  refine Json.wf_obj.mpr ⟨Dict.nodup_set _ _ (nodup_stamped log t _), fun p hp => ?_⟩
  rcases mem_extendedEntry_iff.mp hp with rfl | rfl | rfl | ⟨-, -, -, hp⟩
  · rfl
  · rfl
  · rfl
  · exact (Json.wf_obj.mp log.wf).2 p hp

theorem Timestamp.allChars (t : Timestamp) :
    AllChars (fun c => 0x20 ≤ c.val && c.val < 0x7F) t.text := List.all_eq_true.mp t.ascii

theorem ascii_lt (c : CodePoint) (h : (0x20 ≤ c.val && c.val < 0x7F) = true) : c.val < 0x7F := by
  simp only [Bool.and_eq_true, decide_eq_true_eq] at h
  exact h.2

/-- The three keys that the sink sets are plain. -/
theorem keys_isScalar : IsScalar timestampKey ∧ IsScalar prevHashKey ∧ IsScalar recordHashKey := by
  decide

/-- The entry has a hash: the sink never fails to compute one. -/
theorem exists_chainHash (log : AuditRecord) (t : Timestamp) {prev : Str}
    (hp : AllChars isHexDigit prev) :
    ∃ h, chainHash sha (stamped log.members t (.str prev)) = .ok h := by
  have htext := log.isText
  have hdoubles := log.hasDoubles
  rw [Json.isText, Json.every_obj, decide_eq_true_iff] at htext
  rw [Json.hasDoubles, Json.every_obj] at hdoubles
  have hmem : ∀ p ∈ (stamped log.members t (.str prev)).without recordHashKey,
      IsScalar p.1 ∧ p.2.isText = true ∧ p.2.hasDoubles = true := by
    intro p hp'
    rcases mem_stamped (List.mem_of_mem_filter hp') with rfl | rfl | hp'
    · exact ⟨keys_isScalar.2.1, decide_eq_true (isScalar_of_ascii isHexDigit_lt hp), rfl⟩
    · exact ⟨keys_isScalar.1, decide_eq_true (isScalar_of_ascii ascii_lt t.allChars), rfl⟩
    · exact ⟨htext.1 _ (List.mem_map_of_mem hp'), htext.2 p hp', hdoubles.2 p hp'⟩
  refine canonicalHash_isOk_iff.mpr ⟨?_, ?_⟩
  · rw [Json.isText, Json.every_obj, decide_eq_true_iff]
    refine ⟨fun k hk => ?_, fun p hp => (hmem p hp).2.1⟩
    obtain ⟨p, hp, rfl⟩ := List.mem_map.mp hk
    exact (hmem p hp).1
  · rw [Json.hasDoubles, Json.every_obj]
    exact ⟨rfl, fun p hp => (hmem p hp).2.2⟩

/-- An integer with a double is short. -/
theorem hasShortInts_of_hasDoubles {v : Json} (h : v.hasDoubles = true) :
    v.hasShortInts = true := by
  refine Json.every_of_and (fun u hd _ => ?_) (fun _ h _ => h) h h
  cases u with
  | int i =>
    have hlt : i.natAbs < 10 ^ 4300 :=
      (natAbs_lt_of_floatOfInt hd).trans_le ((Nat.pow_le_pow_left (by decide) 1024).trans
        (Nat.pow_le_pow_right (by decide) (by decide)))
    exact decide_eq_true (decDigits_length_le hlt (by decide))
  | _ => rfl

theorem hasShortInts_extendedEntry (log : AuditRecord) (t : Timestamp) (prev hash : Str) :
    (Json.obj (extendedEntry log t prev hash)).hasShortInts = true := by
  have hlog := hasShortInts_of_hasDoubles log.hasDoubles
  rw [Json.hasShortInts, Json.every_obj] at hlog ⊢
  refine ⟨rfl, fun p hp => ?_⟩
  rcases mem_extendedEntry_iff.mp hp with rfl | rfl | rfl | ⟨-, -, -, hp⟩
  · rfl
  · rfl
  · rfl
  · exact hlog.2 p hp

/-- The hash of an entry is computed without its `record_hash`. -/
theorem chainHash_extendedEntry (log : AuditRecord) (t : Timestamp) (prev hash : Str) :
    chainHash sha (extendedEntry log t prev hash)
      = chainHash sha (stamped log.members t (.str prev)) := by
  rw [chainHash, chainHash, extendedEntry, Dict.without_set]

theorem recordHash_extendedEntry (log : AuditRecord) (t : Timestamp) (prev hash : Str) :
    recordHash (extendedEntry log t prev hash) = .str hash := by
  rw [recordHash, extendedEntry, Dict.lookup_set, if_pos rfl, Option.getD_some]

theorem prevHash_extendedEntry (log : AuditRecord) (t : Timestamp) (prev hash : Str) :
    prevHash (extendedEntry log t prev hash) = .str prev := by
  rw [prevHash, extendedEntry, Dict.lookup_set, if_neg prevHashKey_ne, stamped, Dict.lookup_set,
    if_pos rfl, Option.getD_some]

theorem Written.authentic {call : AuditRecord × Timestamp} {e : Dict Json}
    (h : Written sha call e) : Authentic sha e := by
  obtain ⟨prev, hash, -, hc, rfl⟩ := h
  exact ⟨hash, by rw [chainHash_extendedEntry, hc], recordHash_extendedEntry _ _ _ _⟩

theorem Written.wf {call : AuditRecord × Timestamp} {e : Dict Json} (h : Written sha call e) :
    (Json.obj e).Wf := by
  obtain ⟨prev, hash, -, -, rfl⟩ := h
  exact wf_extendedEntry _ _ _ _

theorem Written.hasShortInts {call : AuditRecord × Timestamp} {e : Dict Json}
    (h : Written sha call e) : (Json.obj e).hasShortInts = true := by
  obtain ⟨prev, hash, -, -, rfl⟩ := h
  exact hasShortInts_extendedEntry _ _ _ _

theorem isHex_of_chainHash {e : Dict Json} {h : Str} (hc : chainHash sha e = .ok h) :
    AllChars isHexDigit h := by
  obtain ⟨s, -, -, rfl⟩ := canonicalHash_eq_ok hc
  exact sha.isHex s

/-- No string of the record, and no key, holds a line boundary that stays unescaped; the values
of the three keys that the sink sets do not count. -/
def HasNoRawBreaks (log : AuditRecord) : Prop :=
  (Json.obj (((log.members.without timestampKey).without prevHashKey).without
    recordHashKey)).NoRawBreaks

theorem noRawBreak_of_ascii {s : Str} {test : CodePoint → Bool}
    (ht : ∀ c, test c = true → c.val < 0x7F) (h : AllChars test s) :
    AllChars (fun c => !isRawBreak c) s := by
  intro c hc
  have := ht c (h c hc)
  simp only [isRawBreak, Bool.not_eq_true', Bool.or_eq_false_iff, beq_eq_false_iff_ne]
  omega

/-- The entry of a record is one line exactly when the record is. -/
theorem Written.noRawBreaks_iff {call : AuditRecord × Timestamp} {e : Dict Json}
    (h : Written sha call e) : (Json.obj e).NoRawBreaks ↔ HasNoRawBreaks call.1 := by
  obtain ⟨prev, hash, hp, hc, rfl⟩ := h
  have hhash := isHex_of_chainHash hc
  have hkeys : AllChars (fun c => !isRawBreak c) timestampKey ∧
      AllChars (fun c => !isRawBreak c) prevHashKey ∧
      AllChars (fun c => !isRawBreak c) recordHashKey := by decide
  simp only [HasNoRawBreaks, Json.NoRawBreaks, Json.mem_strings_obj, mem_extendedEntry_iff,
    Dict.without, List.mem_filter, decide_eq_true_eq, forall_exists_index, and_imp]
  constructor
  · intro h s p hm ht hp hr hs
    exact h s p (Or.inr (Or.inr (Or.inr ⟨hr, hp, ht, hm⟩))) hs
  · rintro h s p (rfl | rfl | rfl | ⟨hr, hp, ht, hm⟩) hs
    · rcases hs with rfl | hs
      · exact hkeys.2.2
      · rw [List.mem_singleton.mp hs]; exact noRawBreak_of_ascii isHexDigit_lt hhash
    · rcases hs with rfl | hs
      · exact hkeys.2.1
      · rw [List.mem_singleton.mp hs]; exact noRawBreak_of_ascii isHexDigit_lt hp
    · rcases hs with rfl | hs
      · exact hkeys.1
      · rw [List.mem_singleton.mp hs]; exact noRawBreak_of_ascii ascii_lt call.2.allChars
    · exact h s p hm ht hp hr hs

/-! ## 3. The lines of the file -/

/-- The text of an entry, without its newline. -/
def entryText (e : Dict Json) : Str := (dumpsDoc (.obj e)).render .plain [0x20]

/-- What the sink has written. -/
def linesText (es : List (Dict Json)) : Str := es.flatMap (fun e => entryText e ++ [0x0A])

theorem entryLine_eq {e : Dict Json} (h : (Json.obj e).hasShortInts = true) :
    entryLine e = .ok (entryText e ++ [0x0A]) := by
  rw [entryLine, dumps, if_pos h]
  rfl

theorem entryText_cons (e : Dict Json) : ∃ t, entryText e = 0x7B :: t := by
  unfold entryText
  rw [dumpsDoc_obj]
  rcases Json.docMembers (sortedBy Prod.fst (Json.sortKeysMembers e)) with _ | ⟨⟨k, d⟩, ms⟩ <;>
    exact ⟨_, rfl⟩

/-- The text ends with the closing brace. -/
theorem entryText_concat (e : Dict Json) : ∃ t, entryText e = t ++ [0x7D] := by
  have hmembers : ∀ ms : List (Str × Doc), ∃ t,
      Doc.renderMembers .plain [0x20] ms = t ++ [0x7D] := by
    intro ms
    induction ms with
    | nil => exact ⟨[], rfl⟩
    | cons p ms ih =>
      obtain ⟨k, d⟩ := p
      obtain ⟨t, ht⟩ := ih
      rw [Doc.renderMembers, ht]
      exact ⟨0x2C :: ([0x20] ++ (quote k ++ 0x3A :: ([0x20] ++ (d.render .plain [0x20] ++ t)))),
        by simp [Quoting.text_plain]⟩
  unfold entryText
  rw [dumpsDoc_obj]
  rcases Json.docMembers (sortedBy Prod.fst (Json.sortKeysMembers e)) with _ | ⟨⟨k, d⟩, ms⟩
  · exact ⟨[0x7B], rfl⟩
  · obtain ⟨t, ht⟩ := hmembers ms
    rw [Doc.render, ht]
    exact ⟨0x7B :: (quote k ++ 0x3A :: ([0x20] ++ (d.render .plain [0x20] ++ t))),
      by simp [Quoting.text_plain]⟩

theorem oneLine_entryText_iff {e : Dict Json} (h : (Json.obj e).hasShortInts = true) :
    OneLine (entryText e) ↔ (Json.obj e).NoRawBreaks := oneLine_dumps_iff h

/-- The only boundaries in an entry's text are the three that no escape covers. -/
theorem isRawBreak_of_mem_entryText {e : Dict Json} (h : (Json.obj e).hasShortInts = true)
    {c : CodePoint} (hc : c ∈ entryText e) (hb : isLineBreak c = true) : isRawBreak c = true :=
  isRawBreak_of_mem_dumps h hc hb

theorem loads_entryText {e : Dict Json} (hw : (Json.obj e).Wf)
    (h : (Json.obj e).hasShortInts = true) :
    loads (entryText e) = .ok (.obj (inKeyOrder e)) :=
  loads_dumps hw (by rw [dumps, if_pos h]; rfl)

/-- The file's text is read as it was written: there is no carriage return in it. -/
theorem universalNewlines_linesText {es : List (Dict Json)}
    (h : ∀ e ∈ es, (Json.obj e).hasShortInts = true) :
    universalNewlines (linesText es) = linesText es := by
  refine universalNewlines_eq_self (fun c hc => ?_)
  obtain ⟨e, he, hce⟩ := List.mem_flatMap.mp hc
  rintro rfl
  rcases List.mem_append.mp hce with hm | hm
  · exact absurd (isRawBreak_of_mem_entryText (h e he) hm (by decide)) (by decide)
  · exact absurd (List.mem_singleton.mp hm) (by decide)

/-- The lines that the reader makes of an entry. -/
def entryLines (e : Dict Json) : List Str := splitlines (entryText e ++ [0x0A])

theorem splitlines_linesText_append (es : List (Dict Json)) (x : Str) :
    splitlines (linesText es ++ x) = es.flatMap entryLines ++ splitlines x := by
  induction es with
  | nil => rfl
  | cons e es ih =>
    have hcons : linesText (e :: es) ++ x = entryText e ++ 0x0A :: (linesText es ++ x) := by
      simp [linesText]
    rw [hcons, splitlines_append_break (by decide) (by decide), ih, List.flatMap_cons, entryLines,
      List.append_assoc]

/-- The lines of the file are the lines of its entries. -/
theorem fileLines_linesText {es : List (Dict Json)}
    (h : ∀ e ∈ es, (Json.obj e).hasShortInts = true) :
    fileLines (linesText es) = es.flatMap entryLines := by
  have := splitlines_linesText_append es []
  rw [List.append_nil] at this
  rw [fileLines, universalNewlines_linesText h, this]
  exact List.append_nil _

/-- An entry without a boundary in it is one line. -/
theorem entryLines_of_oneLine {e : Dict Json} (h : OneLine (entryText e)) :
    entryLines e = [entryText e] :=
  splitlines_line (by decide) (by decide) (fun c hc => by simpa using h c hc)

theorem notBlank_entryText (e : Dict Json) : notBlank (entryText e) = true := by
  obtain ⟨t, ht⟩ := entryText_cons e
  have := strip_ne_nil (c := 0x7B) (s := entryText e) (by decide) (by rw [ht]; simp)
  simpa [notBlank] using this

/-- The first line of an entry that has a boundary in it is no JSON text. -/
theorem entryLines_broken_head {e : Dict Json} (hs : (Json.obj e).hasShortInts = true)
    (h : ¬ OneLine (entryText e)) : ∃ p rest, entryLines e = p :: rest ∧
      notBlank p = true ∧ loads p = .error .jsonDecodeError := by
  obtain ⟨p, c, x, hpx, hp, hc⟩ := exists_first_break h
  have hraw := isRawBreak_of_mem_entryText hs (by rw [hpx]; simp) hc
  have hcr : c ≠ 0x0D := by rintro rfl; exact absurd hraw (by decide)
  obtain ⟨t, ht⟩ := entryText_cons e
  have hhead : ∃ q, p = 0x7B :: q := by
    cases p with
    | nil =>
      rw [List.nil_append, ht, List.cons.injEq] at hpx
      rw [← hpx.1] at hc
      exact absurd hc (by decide)
    | cons a q =>
      rw [List.cons_append, ht, List.cons.injEq] at hpx
      exact ⟨q, by rw [← hpx.1]⟩
  obtain ⟨q, hq⟩ := hhead
  refine ⟨p, splitlines (x ++ [0x0A]), ?_, ?_, ?_⟩
  · rw [entryLines, hpx, List.append_assoc, List.cons_append, splitlines_append_break hc hcr,
      splitlines_line hc hcr (fun d hd => by simpa using hp d hd)]
    rfl
  · have := strip_ne_nil (c := 0x7B) (s := p) (by decide) (by rw [hq]; simp)
    simpa [notBlank] using this
  · have hok := dumpsDoc_ok hs
    rw [dumpsDoc_obj] at hok
    exact loads_cut padSpace hok (p := p) (x := c :: x) (by rw [← hpx, entryText, dumpsDoc_obj])
      (by simp)

/-- Nor is its last line. -/
theorem entryLines_broken_last {e : Dict Json} (hw : (Json.obj e).Wf)
    (hs : (Json.obj e).hasShortInts = true) (h : ¬ OneLine (entryText e)) :
    ∃ rest x, entryLines e = rest ++ [x] ∧ notBlank x = true ∧
      ∀ v, loads x ≠ .ok v := by
  obtain ⟨p, c, x, hpx, hx, hc⟩ := exists_last_break h
  have hraw := isRawBreak_of_mem_entryText hs (by rw [hpx]; simp) hc
  have hcr : c ≠ 0x0D := by rintro rfl; exact absurd hraw (by decide)
  have hhigh : 0x80 ≤ c.val := by
    simp only [isRawBreak, Bool.or_eq_true, beq_iff_eq] at hraw
    omega
  obtain ⟨t, ht⟩ := entryText_concat e
  -- the closing brace is behind the last break, so the last line is not blank
  have hbrace : 0x7D ∈ x := by
    rcases List.eq_nil_or_concat x with rfl | ⟨y, d, rfl⟩
    · have hlast := congrArg List.getLast? (hpx.symm.trans ht)
      simp only [List.getLast?_append, List.getLast?_singleton, Option.some_or,
        Option.some.injEq] at hlast
      rw [hlast] at hc
      exact absurd hc (by decide)
    · rw [List.concat_eq_append] at *
      have hlast := congrArg List.getLast? (hpx.symm.trans ht)
      rw [← List.cons_append, ← List.append_assoc, List.getLast?_concat,
        List.getLast?_concat, Option.some.injEq] at hlast
      rw [hlast]; simp
  have hlast : splitlines (x ++ [0x0A]) = [x] :=
    splitlines_line (by decide) (by decide) (fun d hd => by simpa using hx d hd)
  refine ⟨splitlines (p ++ [c]), x, ?_, ?_, ?_⟩
  · rw [entryLines, hpx, List.append_assoc, List.cons_append, splitlines_append_break hc hcr, hlast]
  · have := strip_ne_nil (c := 0x7D) (s := x) (by decide) hbrace
    simpa [notBlank] using this
  · have hload := loads_entryText hw hs
    rw [hpx] at hload
    exact fun v => loads_suffix hhigh hload v

/-! ## 4. Reading the last hash back -/

theorem authentic_recordHash {e : Dict Json} (h : Authentic sha e) :
    ∃ hash, AllChars isHexDigit hash ∧ recordHash e = .str hash := by
  obtain ⟨hash, hc, hrec⟩ := h
  exact ⟨hash, isHex_of_chainHash hc, hrec⟩

/-- The hash that the next entry refers to is a string of hexadecimal digits. -/
theorem tip_isHex {es : List (Dict Json)} (h : ∀ e ∈ es, Authentic sha e) :
    ∃ p, AllChars isHexDigit p ∧ tip recordHash (.str genesisHash) es = .str p := by
  rcases List.eq_nil_or_concat es with rfl | ⟨es, e, rfl⟩
  · exact ⟨genesisHash, by decide, rfl⟩
  · rw [List.concat_eq_append] at *
    rw [tip_concat]
    exact authentic_recordHash (h e (by simp))

theorem recordHash_inKeyOrder {e : Dict Json} (hw : (Json.obj e).Wf) {hash : Str}
    (h : recordHash e = .str hash) : (inKeyOrder e).lookup recordHashKey = some (.str hash) := by
  rw [lookup_inKeyOrder (Json.wf_obj.mp hw).1, recordHash_eq_str h]
  rfl

theorem filter_eq_notBlank (lines : List Str) :
    lines.filter (fun line => strip line ≠ []) = lines.filter notBlank := rfl

/-- The last line of the file, where the last entry is one line. -/
theorem readLastHash_of_oneLine {es : List (Dict Json)} {e : Dict Json}
    (hs : ∀ a ∈ es ++ [e], (Json.obj a).hasShortInts = true) (hw : (Json.obj e).Wf) {hash : Str}
    (hrec : recordHash e = .str hash) (h : OneLine (entryText e)) :
    readLastHash (some (linesText (es ++ [e]))) = .ok (.str hash) := by
  have hlast : ((fileLines (linesText (es ++ [e]))).filter notBlank).getLast?
      = some (entryText e) := by
    rw [fileLines_linesText hs, List.flatMap_append, List.flatMap_singleton,
      entryLines_of_oneLine h, List.filter_append, List.filter_cons_of_pos (notBlank_entryText e),
      List.filter_nil, List.getLast?_concat]
  rw [readLastHash, filter_eq_notBlank, hlast]
  simp only [loads_entryText hw (hs e (by simp)), ok_bind, recordHash_inKeyOrder hw hrec]
  rfl

/-- A restarted sink reads the last hash, or raises. -/
theorem readLastHash_linesText {es : List (Dict Json)} {v : Json}
    (hs : ∀ e ∈ es, (Json.obj e).hasShortInts = true) (hw : ∀ e ∈ es, (Json.obj e).Wf)
    (ha : ∀ e ∈ es, Authentic sha e) (h : readLastHash (some (linesText es)) = .ok v) :
    v = tip recordHash (.str genesisHash) es := by
  rcases List.eq_nil_or_concat es with rfl | ⟨es, e, rfl⟩
  · cases h; rfl
  · rw [List.concat_eq_append] at *
    obtain ⟨hash, -, hrec⟩ := authentic_recordHash (ha e (by simp))
    rw [tip_concat, hrec]
    by_cases hone : OneLine (entryText e)
    · rw [readLastHash_of_oneLine hs (hw e (by simp)) hrec hone] at h
      cases h; rfl
    · exfalso
      obtain ⟨rest, x, hx, hb, hno⟩ :=
        entryLines_broken_last (hw e (by simp)) (hs e (by simp)) hone
      have hlast : ((fileLines (linesText (es ++ [e]))).filter notBlank).getLast? = some x := by
        rw [fileLines_linesText hs, List.flatMap_append, List.flatMap_singleton, hx,
          ← List.append_assoc, List.filter_append, List.filter_cons_of_pos hb, List.filter_nil,
          List.getLast?_concat]
      rw [readLastHash, filter_eq_notBlank, hlast] at h
      obtain ⟨u, hu, -⟩ := bind_eq_ok h
      exact hno u hu

/-- It does read it where every entry is one line. -/
theorem readLastHash_isOk {es : List (Dict Json)}
    (hs : ∀ e ∈ es, (Json.obj e).hasShortInts = true) (hw : ∀ e ∈ es, (Json.obj e).Wf)
    (ha : ∀ e ∈ es, Authentic sha e) (h : ∀ e ∈ es, OneLine (entryText e)) :
    ∃ v, readLastHash (some (linesText es)) = .ok v := by
  rcases List.eq_nil_or_concat es with rfl | ⟨es, e, rfl⟩
  · exact ⟨_, rfl⟩
  · rw [List.concat_eq_append] at *
    obtain ⟨hash, -, hrec⟩ := authentic_recordHash (ha e (by simp))
    exact ⟨_, readLastHash_of_oneLine hs (hw e (by simp)) hrec (h e (by simp))⟩

/-- The entry after a hash, and its line, are always made. -/
theorem AuditState.prepare_eq (s : AuditState) (log : AuditRecord) (t : Timestamp) {p : Str}
    (hp : AllChars isHexDigit p) :
    ∃ e, Written sha (log, t) e ∧ prevHash e = .str p ∧ s.prepare sha log (.str p) t =
      { s with holder := some (.writing log t e (entryText e ++ [0x0A])) } := by
  obtain ⟨hash, hc⟩ : ∃ h, chainHash sha (stamped log.members t (.str p)) = .ok h :=
    exists_chainHash log t hp
  have hwritten : Written sha (log, t) (extendedEntry log t p hash) := ⟨p, hash, hp, hc, rfl⟩
  refine ⟨extendedEntry log t p hash, hwritten, prevHash_extendedEntry _ _ _ _, ?_⟩
  have hentry : chainedEntry sha log.members t (.str p) = .ok (extendedEntry log t p hash) := by
    rw [chainedEntry, hc]; rfl
  rw [AuditState.prepare, hentry]
  simp only [entryLine_eq hwritten.hasShortInts]

/-! ## 5. The invariant of the sink -/

/-- What holds in every reachable state, whatever the records hold: the text is the lines of the
entries, each entry is one that the sink wrote for a finished call, and each carries the hash of
the one before it.  That the verifier finds the lines again is not part of it; that takes records
without raw line boundaries. -/
structure AuditInv (sha : Sha256) (s : AuditState) : Prop where
  written : List.Forall₂ (Written sha) s.finished s.entries
  linked : Linked prevHash recordHash (.str genesisHash) s.entries
  file : (s.file = none ∧ s.entries = []) ∨ s.file = some (linesText s.entries)
  lastHash : ∀ h, s.lastHash = some h → h = tip recordHash (.str genesisHash) s.entries
  chained : ∀ log prev, s.holder = some (.chained log prev) →
    prev = tip recordHash (.str genesisHash) s.entries
  writing : ∀ log t e line, s.holder = some (.writing log t e line) →
    Written sha (log, t) e ∧ prevHash e = tip recordHash (.str genesisHash) s.entries ∧
      line = entryText e ++ [0x0A]
  failed : s.failed ≠ 0 → ∃ c ∈ s.finished, ¬ HasNoRawBreaks c.1
  accounted : s.failed = 0 → s.started.Perm (s.finished.map Prod.fst ++ s.pending)

namespace AuditInv

variable {s : AuditState}

theorem exists_call (h : AuditInv sha s) {e : Dict Json} (he : e ∈ s.entries) :
    ∃ c ∈ s.finished, Written sha c e := by
  have hall := h.written
  generalize s.finished = calls at hall ⊢
  generalize s.entries = es at hall he
  induction hall with
  | nil => cases he
  | cons hce _ ih =>
    rcases List.mem_cons.mp he with rfl | he
    · exact ⟨_, by simp, hce⟩
    · obtain ⟨c, hc, hw⟩ := ih he
      exact ⟨c, by simp [hc], hw⟩

theorem exists_entry (h : AuditInv sha s) {c : AuditRecord × Timestamp} (hc : c ∈ s.finished) :
    ∃ e ∈ s.entries, Written sha c e := by
  have hall := h.written
  generalize s.finished = calls at hall hc
  generalize s.entries = es at hall ⊢
  induction hall with
  | nil => cases hc
  | cons hce _ ih =>
    rcases List.mem_cons.mp hc with rfl | hc
    · exact ⟨_, by simp, hce⟩
    · obtain ⟨e, he, hw⟩ := ih hc
      exact ⟨e, by simp [he], hw⟩

theorem authentic (h : AuditInv sha s) : ∀ e ∈ s.entries, Authentic sha e := fun _ he =>
  let ⟨_, _, hw⟩ := h.exists_call he
  hw.authentic

theorem wf (h : AuditInv sha s) : ∀ e ∈ s.entries, (Json.obj e).Wf := fun _ he =>
  let ⟨_, _, hw⟩ := h.exists_call he
  hw.wf

theorem hasShortInts (h : AuditInv sha s) : ∀ e ∈ s.entries, (Json.obj e).hasShortInts = true :=
  fun _ he =>
    let ⟨_, _, hw⟩ := h.exists_call he
    hw.hasShortInts

theorem text_eq (h : AuditInv sha s) : s.text = linesText s.entries := by
  unfold AuditState.text
  rcases h.file with ⟨hf, he⟩ | hf
  · rw [hf, he]; rfl
  · rw [hf]; rfl

/-- Every entry is one line exactly when every finished record is. -/
theorem oneLine_iff (h : AuditInv sha s) :
    (∀ e ∈ s.entries, OneLine (entryText e)) ↔ ∀ c ∈ s.finished, HasNoRawBreaks c.1 := by
  constructor
  · intro hall c hc
    obtain ⟨e, he, hw⟩ := h.exists_entry hc
    exact hw.noRawBreaks_iff.mp ((oneLine_entryText_iff hw.hasShortInts).mp (hall e he))
  · intro hall e he
    obtain ⟨c, hc, hw⟩ := h.exists_call he
    exact (oneLine_entryText_iff hw.hasShortInts).mpr (hw.noRawBreaks_iff.mpr (hall c hc))

/-- Reading the last hash gives the hash to go on from. -/
theorem readLastHash_eq (h : AuditInv sha s) {v : Json} (hv : readLastHash s.file = .ok v) :
    v = tip recordHash (.str genesisHash) s.entries := by
  rcases h.file with ⟨hf, he⟩ | hf
  · rw [hf] at hv
    cases hv
    rw [he]; rfl
  · rw [hf] at hv
    exact readLastHash_linesText h.hasShortInts h.wf h.authentic hv

/-- It fails only on a file with a broken line. -/
theorem readLastHash_error (h : AuditInv sha s) {e : PyError}
    (hv : readLastHash s.file = .error e) : ∃ c ∈ s.finished, ¬ HasNoRawBreaks c.1 := by
  by_contra hno
  have hall : ∀ c ∈ s.finished, HasNoRawBreaks c.1 := by
    intro c hc
    by_contra hbad
    exact hno ⟨c, hc, hbad⟩
  rcases h.file with ⟨hf, -⟩ | hf
  · rw [hf] at hv; cases hv
  · obtain ⟨v, hok⟩ := readLastHash_isOk h.hasShortInts h.wf h.authentic (h.oneLine_iff.mpr hall)
    rw [hf, hok] at hv
    cases hv

theorem init : AuditInv sha AuditState.initial where
  written := .nil
  linked := trivial
  file := Or.inl ⟨rfl, rfl⟩
  lastHash _ h := nomatch h
  chained _ _ h := nomatch h
  writing _ _ _ _ h := nomatch h
  failed h := absurd rfl h
  accounted _ := .nil

theorem readHash (h : AuditInv sha s) {log : AuditRecord}
    (hh : s.holder = some (.entered log)) : AuditInv sha (s.readHash log) := by
  have hpend : ∀ p : Phase, p.log = log →
      AuditState.pending { s with holder := some p } = s.pending := by
    intro p hp
    have hentered : (Phase.entered log).log = log := rfl
    simp [AuditState.pending, hh, hp, hentered]
  unfold AuditState.readHash
  split
  · rename_i prev hl
    exact { h with
      chained := fun _ _ he => by cases he; exact h.lastHash _ hl
      writing := fun _ _ _ _ he => nomatch he
      accounted := fun hf => (hpend (.chained log prev) rfl).symm ▸ h.accounted hf }
  · split
    · rename_i prev hr
      have hprev := h.readLastHash_eq hr
      exact { h with
        lastHash := fun _ he => by cases he; exact hprev
        chained := fun _ _ he => by cases he; exact hprev
        writing := fun _ _ _ _ he => nomatch he
        accounted := fun hf => (hpend (.chained log prev) rfl).symm ▸ h.accounted hf }
    · rename_i e hr
      exact { h with
        chained := fun _ _ he => nomatch he
        writing := fun _ _ _ _ he => nomatch he
        failed := fun _ => h.readLastHash_error hr
        accounted := fun hf => nomatch hf }

theorem prepare_eq (h : AuditInv sha s) {log : AuditRecord} {prev : Json} (t : Timestamp)
    (hh : s.holder = some (.chained log prev)) :
    ∃ e, Written sha (log, t) e ∧ prevHash e = prev ∧
      s.prepare sha log prev t =
        { s with holder := some (.writing log t e (entryText e ++ [0x0A])) } := by
  obtain ⟨p, hp, htip⟩ := tip_isHex h.authentic
  have hprev : prev = .str p := (h.chained _ _ hh).trans htip
  subst hprev
  exact s.prepare_eq log t hp

theorem prepare (h : AuditInv sha s) {log : AuditRecord} {prev : Json} (t : Timestamp)
    (hh : s.holder = some (.chained log prev)) : AuditInv sha (s.prepare sha log prev t) := by
  obtain ⟨e, hw, hprev, heq⟩ := h.prepare_eq t hh
  rw [heq]
  exact { h with
    chained := fun _ _ he => nomatch he
    writing := fun _ _ _ _ he => by cases he; exact ⟨hw, hprev.trans (h.chained _ _ hh), rfl⟩
    accounted := fun hf => by simpa [AuditState.pending, hh, Phase.log] using h.accounted hf }

theorem append (h : AuditInv sha s) {log : AuditRecord} {t : Timestamp} {e : Dict Json}
    {line : Str} (hh : s.holder = some (.writing log t e line)) :
    AuditInv sha (s.append log t e line) := by
  obtain ⟨hw, hprev, rfl⟩ := h.writing _ _ _ _ hh
  exact {
    written := List.rel_append h.written (.cons hw .nil)
    linked := linked_concat.mpr ⟨h.linked, hprev⟩
    file := Or.inr (by simp [AuditState.append, h.text_eq, linesText])
    lastHash := fun _ he => by cases he; exact (tip_concat _ _).symm
    chained := fun _ _ he => nomatch he
    writing := fun _ _ _ _ he => nomatch he
    failed := fun hf =>
      let ⟨c, hc, hbad⟩ := h.failed hf
      ⟨c, List.mem_append_left _ hc, hbad⟩
    accounted := fun hf => by
      simpa [AuditState.pending, AuditState.append, hh, Phase.log] using h.accounted hf }

/-- Each step keeps the invariant. -/
theorem step {t : AuditState} (h : AuditInv sha s) (hst : AuditStep sha s t) :
    AuditInv sha t := by
  cases hst with
  | call log =>
    exact { h with
      accounted := fun hf => by
        simpa [AuditState.pending] using (h.accounted hf).append_right [log] }
  | acquire before log after hw hfree =>
    exact { h with
      chained := fun _ _ he => nomatch he
      writing := fun _ _ _ _ he => nomatch he
      accounted := fun hf => by
        have := h.accounted hf
        simp only [AuditState.pending, hfree, hw, Option.map_none, Option.toList_none,
          List.nil_append, Option.map_some, Option.toList_some, Phase.log] at this ⊢
        exact this.trans (List.Perm.append_left _ List.perm_middle) }
  | readHash log hh => exact h.readHash hh
  | prepare log prev t hh => exact h.prepare t hh
  | append log t e line hh => exact h.append hh
  | restart hfree hidle => exact { h with lastHash := fun _ he => nomatch he }

end AuditInv

theorem auditInv_reachable {s : AuditState} (h : AuditReachable sha s) : AuditInv sha s :=
  h.invariant (fun _ h => h ▸ AuditInv.init) (fun _ _ _ hi hst => hi.step hst)

/-! ## 6. Runs -/

/-- An idle sink that has read the last hash, or has no file to read it from. -/
structure Idle (s : AuditState) : Prop where
  free : s.holder = none
  none : s.waiting = []
  ready : s.file = .none ∨ ∃ prev, s.lastHash = some prev

/-- One call on an idle sink, from its start to its end. -/
theorem exists_recorded {s : AuditState} (hs : AuditReachable sha s) (hidle : Idle s)
    (call : AuditRecord × Timestamp) : ∃ t, AuditReachable sha t ∧ Idle t ∧
      t.started = s.started ++ [call.1] ∧ t.finished = s.finished ++ [call] := by
  obtain ⟨log, time⟩ := call
  have hcall := hs.tail (AuditStep.call s log)
  have hacquire := hcall.tail (AuditStep.acquire _ [] log [] (by simp [hidle.none]) hidle.free)
  set entered : AuditState := { s with
    waiting := [] ++ [], started := s.started ++ [log], holder := some (.entered log) } with hen
  have hread := hacquire.tail (AuditStep.readHash entered log rfl)
  obtain ⟨prev, hprev⟩ : ∃ prev, entered.readHash log
      = { entered with lastHash := some prev, holder := some (.chained log prev) } := by
    unfold AuditState.readHash
    cases hl : s.lastHash with
    | some prev => exact ⟨prev, by simp [hen, hl]⟩
    | none =>
      rcases hidle.ready with hf | ⟨prev, hp⟩
      · exact ⟨.str genesisHash, by simp [hen, hl, hf, readLastHash]⟩
      · rw [hl] at hp; cases hp
  rw [hprev] at hread
  obtain ⟨e, -, -, heq⟩ := (auditInv_reachable hread).prepare_eq time rfl
  have hprepare := hread.tail (AuditStep.prepare _ log prev time rfl)
  rw [heq] at hprepare
  exact ⟨_, hprepare.tail (AuditStep.append _ log time e _ rfl),
    ⟨rfl, rfl, Or.inr ⟨_, rfl⟩⟩, rfl, rfl⟩

/-- Every list of calls is the list of the calls of some run, one after the other. -/
theorem exists_run (calls : List (AuditRecord × Timestamp)) : ∃ s, AuditReachable sha s ∧
    s.started = calls.map Prod.fst ∧ s.finished = calls ∧ s.pending = [] := by
  suffices h : ∃ s, AuditReachable sha s ∧ Idle s ∧ s.started = calls.map Prod.fst ∧
      s.finished = calls by
    obtain ⟨s, hs, hidle, hstart, hfin⟩ := h
    exact ⟨s, hs, hstart, hfin, by simp [AuditState.pending, hidle.free, hidle.none]⟩
  induction calls using List.reverseRecOn with
  | nil => exact ⟨_, .of_init rfl, ⟨rfl, rfl, Or.inl rfl⟩, rfl, rfl⟩
  | append_singleton calls call ih =>
    obtain ⟨s, hs, hidle, hstart, hfin⟩ := ih
    obtain ⟨t, ht, hidle', hstart', hfin'⟩ := exists_recorded hs hidle call
    exact ⟨t, ht, hidle', by rw [hstart', hstart, List.map_append]; rfl, by rw [hfin', hfin]⟩

/-! ## 7. Honest logs -/

/-- The entry of a call is its record with `timestamp`, `prev_hash` and `record_hash` set. -/
def Extends (call : AuditRecord × Timestamp) (entry : Dict Json) : Prop :=
  ∃ prev hash : Str, entry = extendedEntry call.1 call.2 prev hash

/-- No call has failed, and those that have not ended are still to come; the file verifies, and
parses to the entries, one a finished call and in the order of the calls, each the record of
the call with its timestamp, its hash, and the hash of the entry before it. -/
structure HonestLog (sha : Sha256) (s : AuditState) : Prop where
  noneFailed : s.failed = 0
  accounted : s.started.Perm (s.finished.map Prod.fst ++ s.pending)
  verifies : verifyAuditChain sha s.text = .ok (true, none)
  parses : fileRecords s.text = .ok (s.entries.map inKeyOrder)
  extended : List.Forall₂ Extends s.finished s.entries
  linked : Linked prevHash recordHash (.str genesisHash) s.entries
  authentic : ∀ e ∈ s.entries, Authentic sha e

theorem prevHash_inKeyOrder {e : Dict Json} (hw : (Json.obj e).Wf) {p : Str}
    (h : prevHash e = .str p) : prevHash (inKeyOrder e) = .str p := by
  rw [prevHash, lookup_inKeyOrder (Json.wf_obj.mp hw).1, prevHash_eq_str h]
  rfl

theorem Authentic.inKeyOrder {e : Dict Json} (hw : (Json.obj e).Wf) (h : Authentic sha e) :
    Authentic sha (inKeyOrder e) := by
  obtain ⟨hash, hc, hrec⟩ := h
  refine ⟨hash, chainHash_inKeyOrder hw hc, ?_⟩
  rw [recordHash, recordHash_inKeyOrder hw hrec, Option.getD_some]

/-- Sorting its members changes neither of the two hashes of an entry. -/
theorem hashes_inKeyOrder {e : Dict Json} (hw : (Json.obj e).Wf) {p h : Str}
    (hp : prevHash e = .str p) (hr : recordHash e = .str h) :
    prevHash (inKeyOrder e) = prevHash e ∧ recordHash (inKeyOrder e) = recordHash e := by
  rw [prevHash_inKeyOrder hw hp, hp, hr, recordHash, recordHash_inKeyOrder hw hr]
  exact ⟨rfl, rfl⟩

/-- The chain of the entries is the chain of the records that the file parses to. -/
theorem linked_inKeyOrder_iff {g : Json} {es : List (Dict Json)}
    (hw : ∀ e ∈ es, (Json.obj e).Wf) (ha : ∀ e ∈ es, Authentic sha e)
    (hp : ∀ e ∈ es, ∃ p, prevHash e = .str p) :
    Linked prevHash recordHash g (es.map inKeyOrder) ↔ Linked prevHash recordHash g es := by
  refine linked_map_iff (fun e he => ?_)
  obtain ⟨p, hp⟩ := hp e he
  obtain ⟨hash, -, hr⟩ := authentic_recordHash (ha e he)
  exact hashes_inKeyOrder (hw e he) hp hr

/-- A file whose entries are one line each parses to them. -/
theorem fileRecords_linesText {es : List (Dict Json)}
    (hs : ∀ e ∈ es, (Json.obj e).hasShortInts = true) (hw : ∀ e ∈ es, (Json.obj e).Wf)
    (h : ∀ e ∈ es, OneLine (entryText e)) :
    fileRecords (linesText es) = .ok (es.map inKeyOrder) := by
  have hlines : (fileLines (linesText es)).filter notBlank = es.map entryText := by
    rw [fileLines_linesText hs]
    clear hs hw
    induction es with
    | nil => rfl
    | cons e es ih =>
      rw [List.flatMap_cons, entryLines_of_oneLine (h e (by simp)), List.singleton_append,
        List.filter_cons_of_pos (notBlank_entryText e), ih (fun a ha => h a (by simp [ha])),
        List.map_cons]
  rw [fileRecords, filter_eq_notBlank, hlines, List.mapM_map]
  exact mapM_ok (fun e he =>
    lineRecord_eq_ok.mpr (loads_entryText (hw e he) (hs e he)))

/-- A file with an entry that is not one line does not parse. -/
theorem oneLine_of_fileRecords {es rs : List (Dict Json)}
    (hs : ∀ e ∈ es, (Json.obj e).hasShortInts = true)
    (h : fileRecords (linesText es) = .ok rs) : ∀ e ∈ es, OneLine (entryText e) := by
  intro e he
  by_contra hbad
  obtain ⟨p, rest, hp, hb, hno⟩ := entryLines_broken_head (hs e he) hbad
  have hmem : p ∈ (fileLines (linesText es)).filter notBlank := by
    rw [fileLines_linesText hs, List.mem_filter]
    exact ⟨List.mem_flatMap.mpr ⟨e, he, hp ▸ List.mem_cons_self⟩, hb⟩
  obtain ⟨r, -, hr⟩ := exists_of_mapM_eq_ok h hmem
  rw [lineRecord_eq_ok, hno] at hr
  cases hr

/-- In every reachable state, the log is honest exactly when no finished record holds one of the
line boundaries that `json.dumps` leaves unescaped.  `splitlines` breaks a line at U+0085, U+2028
and U+2029, and the verifier and the sink after a restart read by lines; every other character of
a record is escaped or no boundary. -/
theorem honestLog_iff {s : AuditState} (h : AuditReachable sha s) :
    HonestLog sha s ↔ ∀ c ∈ s.finished, HasNoRawBreaks c.1 := by
  have hi := auditInv_reachable h
  constructor
  · intro hhon
    have hparse := hhon.parses
    rw [hi.text_eq] at hparse
    exact hi.oneLine_iff.mp (oneLine_of_fileRecords hi.hasShortInts hparse)
  · intro hall
    have hone := hi.oneLine_iff.mpr hall
    have hfailed : s.failed = 0 := by
      by_contra hf
      obtain ⟨c, hc, hbad⟩ := hi.failed hf
      exact hbad (hall c hc)
    have hparse := fileRecords_linesText hi.hasShortInts hi.wf hone
    refine ⟨hfailed, hi.accounted hfailed, ?_, hi.text_eq ▸ hparse, ?_, hi.linked, hi.authentic⟩
    · rw [hi.text_eq, verifyAuditChain_true_iff]
      refine ⟨_, hparse, (linked_inKeyOrder_iff hi.wf hi.authentic
        (Linked.prevHash_str hi.linked hi.authentic)).mpr hi.linked, ?_⟩
      intro e he
      obtain ⟨a, ha, rfl⟩ := List.mem_map.mp he
      exact (hi.authentic a ha).inKeyOrder (hi.wf a ha)
    · exact hi.written.imp (fun c e ⟨prev, hash, _, _, he⟩ => ⟨prev, hash, he⟩)

/-- A record with a line boundary that `json.dumps` leaves as it is. -/
def brokenNote : AuditRecord where
  members := [(lit "note", .str (lit "a\u2028b"))]
  wf := by decide
  isText := by decide
  hasDoubles := by decide

/-- A record without one. -/
def plainNote : AuditRecord where
  members := [(lit "note", .str (lit "ok"))]
  wf := by decide
  isText := by decide
  hasDoubles := by decide

def noteTime : Timestamp := ⟨lit "2026-01-02T03:04:05+00:00", by decide⟩

/-- The canonical JSON of a note's entry, without its hash. -/
def noteText (note prev : Str) : Str :=
  lit "\x7b\"note\":\"" ++ note ++ lit "\",\"prev_hash\":\"" ++ prev ++
    lit "\",\"timestamp\":\"" ++ noteTime.text ++ lit "\"\x7d"

def plainNoteHash : Str := lit "a6284c913e9abe07a74bf121b895510ce86a20c24d0021a4b7d6bf0877f1bcea"

/-- The digests of the notes, and of a second note after the plain one. -/
def noteDigests : DigestTable where
  rows :=
    [(noteText (lit "ok") genesisHash, plainNoteHash),
      (noteText (lit "a\u2028b") genesisHash,
        lit "dfb8224ef61aae83177db7bd073305525feb13cd7aa1261f6e2007fc4e43f649"),
      (noteText (lit "ok") plainNoteHash,
        lit "eb7d6fe46d2cd063be2f9ee9b57429cc25e9569abad9af178e1da730c6e454aa")]
  isDigest := by decide +kernel
  nodup := by decide +kernel

theorem noteDigests_lawful :
    CollisionFree (.ofTable noteDigests) ∧ NeverGenesis (.ofTable noteDigests) :=
  ⟨.of_injective (Sha256.ofTable_injective _),
    .of_ne (Sha256.ofTable_ne (by decide) (by decide +kernel))⟩

theorem plainNote_hasNoRawBreaks : HasNoRawBreaks plainNote := by
  change Json.NoRawBreaks _
  decide

/-- A run of two calls. -/
theorem honestLog_iff_plainNote : ∃ s, AuditReachable (.ofTable noteDigests) s ∧
    s.finished = [(plainNote, noteTime), (plainNote, noteTime)] ∧
      HonestLog (.ofTable noteDigests) s := by
  obtain ⟨s, hs, -, hfin, -⟩ := exists_run [(plainNote, noteTime), (plainNote, noteTime)]
  refine ⟨s, hs, hfin, (honestLog_iff hs).mpr (fun c hc => ?_)⟩
  rw [hfin, List.mem_pair, or_self] at hc
  exact hc ▸ plainNote_hasNoRawBreaks

/-- A run of one call, after which the log does not verify. -/
theorem brokenNote_rejected : ∃ s, AuditReachable (.ofTable noteDigests) s ∧
    s.started = [brokenNote] ∧ s.finished = [(brokenNote, noteTime)] ∧ s.pending = [] ∧
      verifyAuditChain (.ofTable noteDigests) s.text = .ok (false, some 1) := by
  obtain ⟨s, hs, hstart, hfin, hpend⟩ := exists_run [(brokenNote, noteTime)]
  refine ⟨s, hs, hstart, hfin, hpend, ?_⟩
  have hi := auditInv_reachable hs
  have hwritten := hi.written
  rw [hfin] at hwritten
  obtain ⟨e, es, hw, hnil, hes⟩ := List.forall₂_cons_left_iff.mp hwritten
  rw [List.forall₂_nil_left_iff] at hnil
  subst hnil
  have hbad : ¬ OneLine (entryText e) := by
    rw [oneLine_entryText_iff hw.hasShortInts, hw.noRawBreaks_iff]
    change ¬ Json.NoRawBreaks _
    decide
  obtain ⟨p, rest, hp, hb, hl⟩ := entryLines_broken_head hw.hasShortInts hbad
  rw [verifyAuditChain, hi.text_eq, fileLines_linesText hi.hasShortInts, hes]
  rw [List.flatMap_cons, hp]
  exact verifyLines_cons_none (verifyLine_broken hb hl)

end Axg
