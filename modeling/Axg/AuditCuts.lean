/-
# Interrupted calls of the audit sink

A call of `record` may stop at any of its awaits, because of an I/O error, because it was
cancelled, or because the process ended; then some beginning of its line is in the file.  The
sink has no step that repairs the file, and its memory of the last hash is set after the write.
So what the next call finds matters.  Where it finds a file that ends with its last line, and a
memory that agrees with it, every call that is not interrupted leaves a line that verifies
(`survives_of_settled`), however the calls before and after it were interrupted.  Where it finds
a torn line it is lost, or its line is (`torn_line_loses_record`).
-/
import Axg.AuditTamper

namespace Axg

open Python General

/-! ## 1. Runs with interruptions -/

/-- The sink and its file, and the complete lines of the file, each with whether the call that
wrote it came to its end. -/
structure CutState where
  sink : AuditState
  lines : List (Dict Json × Bool)

namespace CutState

def initial : CutState := ⟨.initial, []⟩

/-- The entries of the complete lines. -/
def entries (s : CutState) : List (Dict Json) := s.lines.map Prod.fst

/-- The entries of the calls that came to their end. -/
def ended (s : CutState) : List (Dict Json) := (s.lines.filter Prod.snd).map Prod.fst

/-- A part of a line is written, and its call stops. -/
def cutWrite (s : CutState) (entry : Dict Json) (line part : Str) : CutState where
  sink := { s.sink with file := some (s.sink.text ++ part), holder := none }
  lines := if part = line then s.lines ++ [(entry, false)] else s.lines

end CutState

/-- The steps of concurrent `record` calls that may be interrupted.  `admits` says in which states
of the sink a call may begin its work. -/
inductive CutStep (sha : Sha256) (admits : AuditState → AuditRecord → Prop) :
    CutState → CutState → Prop
  | call (s : CutState) (log : AuditRecord) :
    CutStep sha admits s
      { s with sink := { s.sink with
          waiting := s.sink.waiting ++ [log], started := s.sink.started ++ [log] } }
  | acquire (s : CutState) (before : List AuditRecord) (log : AuditRecord)
      (after : List AuditRecord) (hw : s.sink.waiting = before ++ log :: after)
      (hfree : s.sink.holder = none) (hadmits : admits s.sink log) :
    CutStep sha admits s
      { s with sink := { s.sink with waiting := before ++ after, holder := some (.entered log) } }
  | readHash (s : CutState) (log : AuditRecord) (h : s.sink.holder = some (.entered log)) :
    CutStep sha admits s { s with sink := s.sink.readHash log }
  | prepare (s : CutState) (log : AuditRecord) (prev : Json) (timestamp : Timestamp)
      (h : s.sink.holder = some (.chained log prev)) :
    CutStep sha admits s { s with sink := s.sink.prepare sha log prev timestamp }
  | append (s : CutState) (log : AuditRecord) (timestamp : Timestamp) (entry : Dict Json)
      (line : Str) (h : s.sink.holder = some (.writing log timestamp entry line)) :
    CutStep sha admits s
      ⟨s.sink.append log timestamp entry line, s.lines ++ [(entry, true)]⟩
  /-- A waiting call is cancelled. -/
  | leave (s : CutState) (before : List AuditRecord) (log : AuditRecord)
      (after : List AuditRecord) (hw : s.sink.waiting = before ++ log :: after) :
    CutStep sha admits s { s with sink := { s.sink with waiting := before ++ after } }
  /-- The call that holds the lock stops before it writes. -/
  | cut (s : CutState) (phase : Phase) (h : s.sink.holder = some phase) :
    CutStep sha admits s { s with sink := { s.sink with holder := none } }
  /-- It stops while it writes, or before the new hash is kept. -/
  | cutWrite (s : CutState) (log : AuditRecord) (timestamp : Timestamp) (entry : Dict Json)
      (line part : Str) (h : s.sink.holder = some (.writing log timestamp entry line))
      (hpart : part <+: line) :
    CutStep sha admits s (s.cutWrite entry line part)
  /-- The process ends, and a new sink is made for the file. -/
  | restart (s : CutState) :
    CutStep sha admits s
      { s with sink := { s.sink with lastHash := none, holder := none, waiting := [] } }

/-- The states of every run that starts without a file. -/
def CutReachable (sha : Sha256) (admits : AuditState → AuditRecord → Prop) (s : CutState) : Prop :=
  Reachable (· = CutState.initial) (CutStep sha admits) s

/-! ## 2. What is asked -/

/-- No call that came to its end has failed, and each has its record in the file, as a line that
the verifier does not stop at. -/
structure Survives (sha : Sha256) (s : CutState) : Prop where
  noneFailed : s.sink.failed = 0
  recorded : List.Forall₂ Extends s.sink.finished s.ended
  complete : ∀ (i : Nat) (e : Dict Json), s.lines[i]? = some (e, true) →
    (fileLines s.sink.text)[i]? = some (entryText e)
  verified : ∃ result, verifyAuditChain sha s.sink.text = .ok result ∧
    ∀ (n : Nat), result = (false, some n) → ∀ e : Dict Json, s.lines[n - 1]? ≠ some (e, true)

/-- The file ends with a line, and the sink remembers its hash, or nothing.  After an
interruption either may fail: the file ends inside a line, or the sink remembers the hash before
the last one. -/
def Settled (s : AuditState) : Prop :=
  (∀ c ∈ s.text.getLast?, c = 0x0A) ∧
    ∀ prev, s.lastHash = some prev → readLastHash s.file = .ok prev

/-- A call may begin on a settled sink, with a record without raw line boundaries. -/
def SettledCall (s : AuditState) (log : AuditRecord) : Prop := Settled s ∧ HasNoRawBreaks log

variable {sha : Sha256}

/-! ## 3. Torn lines -/

/-- What a call that stopped has left after the complete lines: a beginning of the line that it
was to write. -/
def Residue (sha : Sha256) (es : List (Dict Json)) (residue : Str) : Prop :=
  residue = [] ∨ ∃ call e, Written sha call e ∧ HasNoRawBreaks call.1 ∧
    prevHash e = tip recordHash (.str genesisHash) es ∧ residue <+: entryText e

/-- An entry of a record without raw boundaries. -/
def Whole (sha : Sha256) (e : Dict Json) : Prop :=
  ∃ call, Written sha call e ∧ HasNoRawBreaks call.1

theorem Whole.oneLine {e : Dict Json} (h : Whole sha e) : OneLine (entryText e) := by
  obtain ⟨call, hw, hraw⟩ := h
  exact (oneLine_entryText_iff hw.hasShortInts).mpr (hw.noRawBreaks_iff.mpr hraw)

theorem Whole.hasShortInts {e : Dict Json} (h : Whole sha e) :
    (Json.obj e).hasShortInts = true := by
  obtain ⟨call, hw, -⟩ := h
  exact hw.hasShortInts

theorem Whole.authentic {e : Dict Json} (h : Whole sha e) : Authentic sha e := by
  obtain ⟨call, hw, -⟩ := h
  exact hw.authentic

theorem Whole.wf {e : Dict Json} (h : Whole sha e) : (Json.obj e).Wf := by
  obtain ⟨call, hw, -⟩ := h
  exact hw.wf

theorem not_isLineBreak_of_oneLine {s : Str} (h : OneLine s) :
    ∀ c ∈ s, isLineBreak c = false := by
  intro c hc
  simpa using h c hc

theorem splitlines_oneLine {s : Str} (h : OneLine s) :
    splitlines s = if s = [] then [] else [s] := by
  induction s with
  | nil => rfl
  | cons c s ih =>
    have hc : isLineBreak c = false := not_isLineBreak_of_oneLine h c List.mem_cons_self
    have hs : OneLine s := fun d hd => h d (List.mem_cons_of_mem _ hd)
    rw [splitlines_cons hc, ih hs, if_neg (List.cons_ne_nil c s)]
    by_cases hnil : s = []
    · rw [if_pos hnil, hnil]
    · rw [if_neg hnil]

theorem Residue.oneLine {es : List (Dict Json)} {residue : Str} (h : Residue sha es residue) :
    OneLine residue := by
  rcases h with rfl | ⟨call, e, hw, hraw, -, hpre⟩
  · intro c hc
    cases hc
  · intro c hc
    exact Whole.oneLine ⟨call, hw, hraw⟩ c (hpre.subset hc)

/-- A file that ends with a line has nothing after it. -/
theorem Residue.eq_nil {es : List (Dict Json)} {residue : Str} (h : Residue sha es residue)
    (hlast : ∀ c ∈ (linesText es ++ residue).getLast?, c = 0x0A) : residue = [] := by
  by_contra hne
  have hmem := List.getLast_mem hne
  have hc : residue.getLast hne = 0x0A := by
    refine hlast _ ?_
    rw [List.getLast?_append, List.getLast?_eq_getLast_of_ne_nil hne]
    rfl
  have := not_isLineBreak_of_oneLine h.oneLine _ hmem
  rw [hc] at this
  cases this

theorem fileLines_residue {es : List (Dict Json)} {residue : Str} (hes : ∀ e ∈ es, Whole sha e)
    (h : Residue sha es residue) :
    fileLines (linesText es ++ residue) =
      es.map entryText ++ if residue = [] then [] else [residue] := by
  have hnocr : ∀ c ∈ linesText es ++ residue, c ≠ 0x0D := by
    intro c hc
    rintro rfl
    rcases List.mem_append.mp hc with hc | hc
    · obtain ⟨e, he, hce⟩ := List.mem_flatMap.mp hc
      rcases List.mem_append.mp hce with hm | hm
      · have := not_isLineBreak_of_oneLine (hes e he).oneLine _ hm
        cases this
      · cases List.mem_singleton.mp hm
    · have := not_isLineBreak_of_oneLine h.oneLine _ hc
      cases this
  rw [fileLines, universalNewlines_eq_self hnocr, splitlines_linesText_append,
    splitlines_oneLine h.oneLine]
  congr 1
  clear h hnocr
  induction es with
  | nil => rfl
  | cons e es ih =>
    rw [List.flatMap_cons, entryLines_of_oneLine (hes e List.mem_cons_self).oneLine,
      ih (fun a ha => hes a (List.mem_cons_of_mem _ ha))]
    rfl

/-- The verifier comes through linked lines, and names the number of what comes after them. -/
theorem verifyLines_entries {es : List (Dict Json)} (hes : ∀ e ∈ es, Whole sha e) {p : Str}
    (hlink : Linked prevHash recordHash (.str p) es) (n : Nat) (rest : List Str) :
    verifyLines sha (.str p) n (es.map entryText ++ rest) =
      verifyLines sha (tip recordHash (.str p) es) (n + es.length) rest := by
  induction es generalizing p n with
  | nil => rfl
  | cons e es ih =>
    obtain ⟨hprev, hrest⟩ := hlink
    have he := hes e List.mem_cons_self
    have hsound : Sound sha e := ⟨he.wf, he.hasShortInts, he.authentic, p, hprev⟩
    obtain ⟨hash, -, hr⟩ := authentic_recordHash he.authentic
    rw [List.map_cons, List.cons_append, verifyLines_cons_some (verifyLine_entryText hsound hprev),
      tip_cons]
    rw [hr] at hrest ⊢
    rw [ih (fun a ha => hes a (List.mem_cons_of_mem _ ha)) hrest (n + 1), List.length_cons]
    congr 1
    omega

/-- The verifier accepts the file, or stops at the torn line behind the complete ones. -/
theorem verifyAuditChain_residue {es : List (Dict Json)} {residue : Str}
    (hes : ∀ e ∈ es, Whole sha e) (hlink : Linked prevHash recordHash (.str genesisHash) es)
    (h : Residue sha es residue) :
    verifyAuditChain sha (linesText es ++ residue) = .ok (true, none) ∨
      verifyAuditChain sha (linesText es ++ residue) = .ok (false, some (1 + es.length)) := by
  rw [verifyAuditChain, fileLines_residue hes h, verifyLines_entries hes hlink]
  by_cases hnil : residue = []
  · rw [if_pos hnil]
    exact .inl rfl
  rw [if_neg hnil]
  obtain ⟨call, e, hw, hraw, hprev, ⟨x, hx⟩⟩ := h.resolve_left hnil
  have he : Whole sha e := ⟨call, hw, hraw⟩
  obtain ⟨p, -, htip⟩ := tip_isHex (fun a ha => (hes a ha).authentic)
  rw [htip] at hprev ⊢
  by_cases hxnil : x = []
  · -- the line lacks its newline alone
    rw [hxnil, List.append_nil] at hx
    have hsound : Sound sha e := ⟨he.wf, he.hasShortInts, he.authentic, p, hprev⟩
    rw [hx, verifyLines_cons_some (verifyLine_entryText hsound hprev)]
    exact .inl rfl
  · have hok := dumpsDoc_ok he.hasShortInts
    rw [dumpsDoc_obj] at hok
    have hcut : loads residue = .error .jsonDecodeError := by
      refine loads_cut padSpace hok ?_ hxnil
      rw [hx, entryText, dumpsDoc_obj]
    have hblank : notBlank residue = true := by
      obtain ⟨t, ht⟩ := entryText_cons e
      have hbrace : 0x7B ∈ residue := by
        cases residue with
        | nil => exact absurd rfl hnil
        | cons c residue =>
          rw [ht, List.cons_append, List.cons.injEq] at hx
          rw [hx.1]
          exact List.mem_cons_self
      have := strip_ne_nil (show isSpace 0x7B = false by decide) hbrace
      simpa [notBlank] using this
    exact .inr (verifyLines_cons_none (verifyLine_broken hblank hcut))

/-- Reading the last hash of complete lines. -/
theorem readLastHash_entries {s : AuditState} {es : List (Dict Json)}
    (hes : ∀ e ∈ es, Whole sha e) (htext : s.text = linesText es) :
    readLastHash s.file = .ok (tip recordHash (.str genesisHash) es) := by
  have hs := fun e he => (hes e he).hasShortInts
  have hw := fun e he => (hes e he).wf
  have ha := fun e he => (hes e he).authentic
  cases hfile : s.file with
  | none =>
    rw [AuditState.text, hfile] at htext
    have hnil : es = [] := by
      cases es with
      | nil => rfl
      | cons e es =>
        have hlen := congrArg List.length htext
        simp [linesText] at hlen
    rw [hnil]
    rfl
  | some file =>
    rw [AuditState.text, hfile] at htext
    change file = linesText es at htext
    obtain ⟨v, hv⟩ := readLastHash_isOk hs hw ha (fun e he => (hes e he).oneLine)
    rw [htext, hv, readLastHash_linesText hs hw ha hv]

/-! ## 4. The invariant -/

/-- What holds in every run whose calls begin on a settled sink.  The text is complete lines and
a residue; while a call holds the lock there is no residue, and the call goes on from the hash of
the last line. -/
structure CutInv (sha : Sha256) (s : CutState) : Prop where
  whole : ∀ e ∈ s.entries, Whole sha e
  linked : Linked prevHash recordHash (.str genesisHash) s.entries
  file : ∃ residue, s.sink.text = linesText s.entries ++ residue ∧ Residue sha s.entries residue
  held : ∀ phase, s.sink.holder = some phase → HasNoRawBreaks phase.log ∧
    s.sink.text = linesText s.entries ∧
    ∀ h, s.sink.lastHash = some h → h = tip recordHash (.str genesisHash) s.entries
  chained : ∀ log prev, s.sink.holder = some (.chained log prev) →
    prev = tip recordHash (.str genesisHash) s.entries
  writing : ∀ log t e line, s.sink.holder = some (.writing log t e line) →
    Written sha (log, t) e ∧ prevHash e = tip recordHash (.str genesisHash) s.entries ∧
      line = entryText e ++ [0x0A]
  noneFailed : s.sink.failed = 0
  recorded : List.Forall₂ (Written sha) s.sink.finished s.ended

namespace CutInv

variable {s : CutState}

theorem init : CutInv sha CutState.initial where
  whole _ h := nomatch h
  linked := trivial
  file := ⟨[], rfl, .inl rfl⟩
  held _ h := nomatch h
  chained _ _ h := nomatch h
  writing _ _ _ _ h := nomatch h
  noneFailed := rfl
  recorded := .nil

/-- A sink on which a call may begin has only complete lines, and their last hash. -/
theorem settled (h : CutInv sha s) (hs : Settled s.sink) :
    s.sink.text = linesText s.entries ∧
      ∀ prev, s.sink.lastHash = some prev → prev = tip recordHash (.str genesisHash) s.entries := by
  obtain ⟨residue, htext, hresidue⟩ := h.file
  have hnil : residue = [] := by
    refine hresidue.eq_nil ?_
    rw [← htext]
    exact hs.1
  rw [hnil, List.append_nil] at htext
  refine ⟨htext, ?_⟩
  intro prev hprev
  have := (hs.2 prev hprev).symm.trans (readLastHash_entries h.whole htext)
  exact Except.ok.inj this

theorem tip_isHex (h : CutInv sha s) :
    ∃ p, AllChars isHexDigit p ∧ tip recordHash (.str genesisHash) s.entries = .str p :=
  Axg.tip_isHex (fun e he => (h.whole e he).authentic)

theorem readHash (h : CutInv sha s) {log : AuditRecord}
    (hh : s.sink.holder = some (.entered log)) :
    CutInv sha { s with sink := s.sink.readHash log } := by
  obtain ⟨hraw, htext, hlast⟩ := h.held _ hh
  unfold AuditState.readHash
  split
  · rename_i prev hl
    have hprev := hlast prev hl
    exact { h with
      held := fun _ he => by cases he; exact ⟨hraw, htext, hlast⟩
      chained := fun _ _ he => by cases he; exact hprev
      writing := fun _ _ _ _ he => nomatch he }
  · simp only [readLastHash_entries h.whole htext]
    exact { h with
      held := fun _ he => by
        cases he
        exact ⟨hraw, htext, fun _ hsome => (Option.some.inj hsome).symm⟩
      chained := fun _ _ he => by cases he; rfl
      writing := fun _ _ _ _ he => nomatch he }

theorem prepare (h : CutInv sha s) {log : AuditRecord} {prev : Json} (t : Timestamp)
    (hh : s.sink.holder = some (.chained log prev)) :
    CutInv sha { s with sink := s.sink.prepare sha log prev t } := by
  obtain ⟨hraw, htext, hlast⟩ := h.held _ hh
  obtain ⟨p, hp, htip⟩ := h.tip_isHex
  have hprev : prev = .str p := (h.chained _ _ hh).trans htip
  subst hprev
  obtain ⟨e, hw, heprev, heq⟩ := s.sink.prepare_eq log t hp
  rw [heq]
  exact { h with
    held := fun _ he => by cases he; exact ⟨hraw, htext, hlast⟩
    chained := fun _ _ he => nomatch he
    writing := fun _ _ _ _ he => by cases he; exact ⟨hw, heprev.trans htip.symm, rfl⟩ }

/-- The entry that is being written, and the line it is to be. -/
theorem next (h : CutInv sha s) {log : AuditRecord} {t : Timestamp} {e : Dict Json} {line : Str}
    (hh : s.sink.holder = some (.writing log t e line)) (ended : Bool) :
    (∀ a ∈ (s.lines ++ [(e, ended)]).map Prod.fst, Whole sha a) ∧
      Linked prevHash recordHash (.str genesisHash) ((s.lines ++ [(e, ended)]).map Prod.fst) ∧
      s.sink.text ++ line = linesText ((s.lines ++ [(e, ended)]).map Prod.fst) := by
  obtain ⟨hraw, htext, -⟩ := h.held _ hh
  obtain ⟨hw, hprev, rfl⟩ := h.writing _ _ _ _ hh
  rw [List.map_append]
  refine ⟨?_, linked_concat.mpr ⟨h.linked, hprev⟩, ?_⟩
  · intro a ha
    rcases List.mem_append.mp ha with ha | ha
    · exact h.whole a ha
    · rw [List.mem_singleton.mp ha]
      exact ⟨_, hw, hraw⟩
  · rw [htext, CutState.entries]
    simp [linesText]

theorem append (h : CutInv sha s) {log : AuditRecord} {t : Timestamp} {e : Dict Json} {line : Str}
    (hh : s.sink.holder = some (.writing log t e line)) :
    CutInv sha ⟨s.sink.append log t e line, s.lines ++ [(e, true)]⟩ := by
  obtain ⟨hwhole, hlinked, htext⟩ := h.next hh true
  obtain ⟨hw, -, -⟩ := h.writing _ _ _ _ hh
  exact {
    whole := hwhole
    linked := hlinked
    file := ⟨[], htext.trans (List.append_nil _).symm, .inl rfl⟩
    held := fun _ he => nomatch he
    chained := fun _ _ he => nomatch he
    writing := fun _ _ _ _ he => nomatch he
    noneFailed := h.noneFailed
    recorded := by
      have hended : CutState.ended ⟨s.sink.append log t e line, s.lines ++ [(e, true)]⟩ =
          s.ended ++ [e] := by
        simp [CutState.ended]
      rw [hended]
      exact List.rel_append h.recorded (.cons hw .nil) }

theorem cutWrite (h : CutInv sha s) {log : AuditRecord} {t : Timestamp} {e : Dict Json}
    {line part : Str} (hh : s.sink.holder = some (.writing log t e line))
    (hpart : part <+: line) : CutInv sha (s.cutWrite e line part) := by
  obtain ⟨hraw, htext, -⟩ := h.held _ hh
  obtain ⟨hw, hprev, hline⟩ := h.writing _ _ _ _ hh
  -- the whole line is in the file, though its call has not come to its end
  by_cases hall : part = line
  · obtain ⟨hwhole, hlinked, hnext⟩ := h.next hh false
    have hlines : (s.cutWrite e line part).lines = s.lines ++ [(e, false)] := if_pos hall
    have hended : (s.cutWrite e line part).ended = s.ended := by
      simp [CutState.ended, hlines]
    exact {
      whole := by rw [CutState.entries, hlines]; exact hwhole
      linked := by rw [CutState.entries, hlines]; exact hlinked
      file := ⟨[], by rw [CutState.entries, hlines, List.append_nil, ← hnext, hall]; rfl, .inl rfl⟩
      held := fun _ he => nomatch he
      chained := fun _ _ he => nomatch he
      writing := fun _ _ _ _ he => nomatch he
      noneFailed := h.noneFailed
      recorded := hended ▸ h.recorded }
  -- the newline at least is missing: what is there is the residue
  · have hpre : part <+: entryText e := by
      rw [hline] at hpart hall
      exact (List.prefix_concat_iff.mp hpart).resolve_left hall
    have hlines : (s.cutWrite e line part).lines = s.lines := if_neg hall
    have hentries : (s.cutWrite e line part).entries = s.entries :=
      congrArg (List.map Prod.fst) hlines
    have hended : (s.cutWrite e line part).ended = s.ended := by
      rw [CutState.ended, hlines]
      rfl
    exact {
      whole := hentries ▸ h.whole
      linked := hentries ▸ h.linked
      file := ⟨part, by rw [hentries, ← htext]; rfl, by
        rw [hentries]
        exact .inr ⟨_, e, hw, hraw, hprev, hpre⟩⟩
      held := fun _ he => nomatch he
      chained := fun _ _ he => nomatch he
      writing := fun _ _ _ _ he => nomatch he
      noneFailed := h.noneFailed
      recorded := hended ▸ h.recorded }

/-- Each step keeps the invariant. -/
theorem step {t : CutState} (h : CutInv sha s) (hst : CutStep sha SettledCall s t) :
    CutInv sha t := by
  cases hst with
  | call log => exact { h with }
  | acquire before log after hw hfree hadmits =>
    obtain ⟨htext, hlast⟩ := h.settled hadmits.1
    exact { h with
      held := fun _ he => by cases he; exact ⟨hadmits.2, htext, hlast⟩
      chained := fun _ _ he => nomatch he
      writing := fun _ _ _ _ he => nomatch he }
  | readHash log hh => exact h.readHash hh
  | prepare log prev t hh => exact h.prepare t hh
  | append log t e line hh => exact h.append hh
  | leave before log after hw => exact { h with }
  | cut phase hh =>
    exact { h with
      held := fun _ he => nomatch he
      chained := fun _ _ he => nomatch he
      writing := fun _ _ _ _ he => nomatch he }
  | cutWrite log t e line part hh hpart => exact h.cutWrite hh hpart
  | restart =>
    exact { h with
      held := fun _ he => nomatch he
      chained := fun _ _ he => nomatch he
      writing := fun _ _ _ _ he => nomatch he }

theorem survives (h : CutInv sha s) : Survives sha s where
  noneFailed := h.noneFailed
  recorded := h.recorded.imp (fun c e ⟨prev, hash, _, _, he⟩ => ⟨prev, hash, he⟩)
  complete := by
    intro i e hi
    obtain ⟨residue, htext, hresidue⟩ := h.file
    have hentry : (s.entries.map entryText)[i]? = some (entryText e) := by
      simp [CutState.entries, hi]
    rw [htext, fileLines_residue h.whole hresidue, List.getElem?_append_left, hentry]
    exact (List.getElem?_eq_some_iff.mp hentry).1
  verified := by
    obtain ⟨residue, htext, hresidue⟩ := h.file
    rw [htext]
    rcases verifyAuditChain_residue h.whole h.linked hresidue with hok | hbroken
    · exact ⟨_, hok, fun n hn => by cases hn⟩
    · refine ⟨_, hbroken, ?_⟩
      intro n hn e
      cases hn
      have hlen : s.lines.length ≤ 1 + s.entries.length - 1 := by
        rw [CutState.entries, List.length_map]
        omega
      rw [List.getElem?_eq_none hlen]
      exact fun hnone => nomatch hnone

end CutInv

/-- In every run whose calls begin on a settled sink, whatever is interrupted, the calls that
came to their end have their records in the file, and the verifier stops at none of them.
Settled is what `record` takes for granted and nothing restores: a file that ends with a whole
line, and a last hash that is the one of this line. -/
theorem survives_of_settled (sha : Sha256) {s : CutState} (h : CutReachable sha SettledCall s) :
    Survives sha s := by
  have hi : CutInv sha s :=
    h.invariant (fun _ hs => hs ▸ CutInv.init) (fun _ _ _ hi hst => hi.step hst)
  exact hi.survives

/-! ## 5. A torn line -/

/-- A call on an idle sink that can read the last hash comes to its write. -/
theorem exists_writing {admits : AuditState → AuditRecord → Prop} {s : CutState}
    (hs : CutReachable sha admits s) (hfree : s.sink.holder = none) (hidle : s.sink.waiting = [])
    (log : AuditRecord) (t : Timestamp) {p : Str} (hp : AllChars isHexDigit p)
    (hread : s.sink.lastHash = some (.str p) ∨
      s.sink.lastHash = none ∧ readLastHash s.sink.file = .ok (.str p))
    (hadmits : ∀ a : AuditState, a.file = s.sink.file → a.lastHash = s.sink.lastHash →
      admits a log) :
    ∃ e u, CutReachable sha admits u ∧ Written sha (log, t) e ∧ u.lines = s.lines ∧
      u.sink = { s.sink with
        started := s.sink.started ++ [log]
        lastHash := some (.str p)
        holder := some (.writing log t e (entryText e ++ [0x0A])) } := by
  have hcall := hs.tail (CutStep.call s log)
  have hacquire := hcall.tail (CutStep.acquire _ [] log [] (by simp [hidle]) hfree
    (hadmits _ rfl rfl))
  set entered : AuditState := { s.sink with
    waiting := [] ++ []
    started := s.sink.started ++ [log]
    holder := some (.entered log) } with hen
  have hreadHash := hacquire.tail (CutStep.readHash ⟨entered, s.lines⟩ log rfl)
  have hchained : entered.readHash log
      = { entered with lastHash := some (.str p), holder := some (.chained log (.str p)) } := by
    unfold AuditState.readHash
    rcases hread with hl | ⟨hl, hr⟩
    · simp [hen, hl]
    · simp [hen, hl, hr]
  rw [hchained] at hreadHash
  obtain ⟨e, hw, -, heq⟩ := @AuditState.prepare_eq sha
    { entered with lastHash := some (.str p), holder := some (.chained log (.str p)) } log t _ hp
  have hprepare := hreadHash.tail (CutStep.prepare _ log (.str p) t rfl)
  rw [heq] at hprepare
  exact ⟨e, _, hprepare, hw, rfl, by simp [hen, hidle]⟩

/-- Two calls one after the other, where the second stops behind its first brace. -/
theorem survives_of_settled_cutSecond : ∃ s,
    CutReachable (.ofTable noteDigests) SettledCall s ∧ s.sink.finished = [(plainNote, noteTime)] ∧
      (∃ entry, s.sink.text = entryText entry ++ lit "\n\x7b") ∧
      Survives (.ofTable noteDigests) s := by
  obtain ⟨e, u, hu, hw, hlines, hsink⟩ := @exists_writing (.ofTable noteDigests) SettledCall
    _ (.of_init rfl) rfl rfl plainNote noteTime genesisHash (by decide) (.inr ⟨rfl, rfl⟩)
    (fun a hfile hlast => ⟨⟨by simp [AuditState.text, hfile, CutState.initial, AuditState.initial],
      by simp [hlast, CutState.initial, AuditState.initial]⟩, plainNote_hasNoRawBreaks⟩)
  have hended := hu.tail (CutStep.append u plainNote noteTime e _ (by rw [hsink]))
  have hwhole : ∀ a ∈ [e], Whole (.ofTable noteDigests) a := by
    intro a ha
    rw [List.mem_singleton.mp ha]
    exact ⟨_, hw, plainNote_hasNoRawBreaks⟩
  obtain ⟨hash, hhex, hhash⟩ := authentic_recordHash hw.authentic
  set v : CutState := ⟨u.sink.append plainNote noteTime e (entryText e ++ [0x0A]),
    u.lines ++ [(e, true)]⟩ with hv
  have hsink' : v.sink = { CutState.initial.sink with
      started := [plainNote]
      lastHash := some (.str hash)
      holder := none
      file := some (linesText [e])
      finished := [(plainNote, noteTime)]
      entries := [e] } := by
    rw [hv, hsink, ← hhash]
    simp [AuditState.append, CutState.initial, AuditState.initial, AuditState.text, linesText]
  have hread : readLastHash (some (linesText [e])) = .ok (.str hash) := by
    rw [← hhash]
    exact @readLastHash_entries _ { AuditState.initial with file := some (linesText [e]) } _
      hwhole rfl
  -- the second call, up to its write
  obtain ⟨e', u', hu', -, -, hsinku⟩ := exists_writing hended (by rw [hsink']) (by rw [hsink']; rfl)
    plainNote noteTime hhex (.inl (by rw [hsink']))
    (fun a hfile hlast => ⟨⟨by simp [AuditState.text, hfile, hsink', linesText],
      fun prev hprev => by
        rw [hlast, hsink'] at hprev
        rw [hfile, hsink', ← Option.some.inj hprev]
        exact hread⟩, plainNote_hasNoRawBreaks⟩)
  obtain ⟨rest, hrest⟩ := entryText_cons e'
  have hpart : [0x7B] <+: entryText e' ++ [0x0A] := ⟨rest ++ [0x0A], by rw [hrest]; rfl⟩
  have hcut := hu'.tail (CutStep.cutWrite u' plainNote noteTime e' _ [0x7B] (by rw [hsinku]) hpart)
  refine ⟨_, hcut, ?_, ⟨e, ?_⟩, survives_of_settled _ hcut⟩
  · simp [CutState.cutWrite, hsinku, hsink']
  · simp [CutState.cutWrite, hsinku, hsink', AuditState.text, linesText]
    rfl

/-- After a call that stopped behind the first brace of its line, a new sink loses a record. -/
theorem torn_line_loses_record : ∃ s,
    CutReachable (.ofTable noteDigests) (fun _ _ => True) s ∧
      s.sink.started = [plainNote, plainNote] ∧ s.sink.waiting = [] ∧ s.sink.holder = none ∧
      s.sink.text = lit "\x7b" ∧ ¬ Survives (.ofTable noteDigests) s := by
  obtain ⟨e, u, hu, -, hlines, hsink⟩ := @exists_writing (.ofTable noteDigests) (fun _ _ => True)
    _ (.of_init rfl) rfl rfl plainNote noteTime genesisHash (by decide) (.inr ⟨rfl, rfl⟩)
    (fun _ _ _ => trivial)
  obtain ⟨rest, hrest⟩ := entryText_cons e
  have hpart : [0x7B] <+: entryText e ++ [0x0A] := ⟨rest ++ [0x0A], by rw [hrest]; rfl⟩
  have hne : ¬ [0x7B] = entryText e ++ [0x0A] := by
    rw [hrest]
    intro h
    have := congrArg List.length h
    simp at this
  have hcut := hu.tail (CutStep.cutWrite u plainNote noteTime e _ [0x7B] (by rw [hsink]) hpart)
  have hrestart := hcut.tail (CutStep.restart _)
  have hcall := hrestart.tail (CutStep.call _ plainNote)
  have hacquire := hcall.tail (CutStep.acquire _ [] plainNote [] rfl rfl trivial)
  have hread := hacquire.tail (CutStep.readHash _ plainNote rfl)
  simp only [CutState.cutWrite, AuditState.readHash, if_neg hne, AuditState.fail, hsink] at hread
  refine ⟨_, hread, rfl, rfl, rfl, rfl, ?_⟩
  intro h
  cases h.noneFailed

end Axg
