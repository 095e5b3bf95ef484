/-
# The Node verifiers (`axg-node-sdk`)

`verifyPassport` and `verifyMcpToolCall` as the Node SDK has them, beside the Python ones.  The
two libraries they call are parameters.  A value of JavaScript is a tree of `Json` whose numbers
are read as doubles, and what JavaScript does otherwise is here: an empty list or object is true,
a list is an object, and an object has the property `__proto__` without having the key.

Values that both languages read as the same are `Portable`.  Of those, two have one text exactly
when they are the same data (`stringify_eq_iff`), and then they are equal in Python too.
-/
import Axg.McpTool
import Axg.Rfc8785

namespace Axg

open Python

namespace Node

/-! ## 1. JavaScript -/

/-- `jose.jwtVerify`, for a key, as a function of the token and the audience, and
`json-stable-stringify`. -/
structure Libraries where
  jwtVerify : Json → Str → Option (Dict Json)
  stringify : Json → Str

/-- `Boolean(v)` -/
def truthy : Json → Bool
  | .arr _ => true
  | .obj _ => true
  | .float .nan => false
  | v => v.truthy

/-- `v === 2` -/
def isTwo (v : Json) : Bool := v.toBinary64.sameNumber (.int 2)

/-- The key under which an object has its prototype. -/
def protoKey : Str := lit "__proto__"

/-- `object[key]` of an object or a list, where it is neither `undefined` nor a function.  A key
that the object does not have itself is looked up in its prototype, whose other properties are
functions; `stringify` has no text for them, as it has none for `undefined`. -/
def property : Json → Str → Option Json
  | .obj members, key =>
    match members.lookup key with
    | some v => some v
    | none => if key = protoKey then some (.obj []) else none
  | .arr items, key =>
    if key = lit "length" then some (.int items.length)
    else if key = protoKey then some (.arr [])
    else ((List.range items.length).find? (fun i => strNat i = key)).bind (fun i => items[i]?)
  | _, _ => none

/-! ## 2. `verifyPassport` -/

/-- `VerificationOptions`, without the key, which `jwtVerify` has, and without a replay cache. -/
structure VerificationOptions where
  appId : Str
  tenantId : Option Str
  allowedActionTypes : Option (List Str)

section

variable (sha : Sha256) (libs : Libraries)

/-- `hashPayload` -/
def hashPayload (payload : Json) : Str := sha.hexdigest (libs.stringify payload)

/-- The escapes of Passport v1: of every code unit outside ASCII. -/
def legacyEscape (c : CodePoint) : Str :=
  if c.val < 0x80 then [c] else (utf16Units c).flatMap unicodeEscape

/-- `legacyHashPayload` -/
def legacyHashPayload (payload : Json) : Str :=
  sha.hexdigest ((libs.stringify payload).flatMap legacyEscape)

/-- The hash that the payload must have under the claims. -/
def expectedHash (claims : Dict Json) (payload : Json) : Str :=
  if (claims.lookup (lit "ver")).any isTwo then hashPayload sha libs payload
  else legacyHashPayload sha libs payload

/-- `verifyPassport`, without a replay cache. -/
def verifyPassport (token payload : Json) (options : VerificationOptions) :
    Except VerificationCode (Dict Json) :=
  match libs.jwtVerify token options.appId with
  | none => .error .jwtError
  | some claims =>
    if claimIs claims "decision" (Decision.value .allow) = false then .error .decisionNotAllowed
    else if options.tenantId.any (fun t => t ≠ [] && !claimIs claims "tenant_id" t) then
      .error .tenantIdMismatch
    -- an empty list is true, and includes nothing
    else if options.allowedActionTypes.any (fun as => !claimIn claims "action_type" as) then
      .error .actionTypeMismatch
    else if (claims.lookup (lit "payload_hash")).any truthy = false then .error .missingPayloadHash
    else if claimIs claims "payload_hash" (expectedHash sha libs claims payload) = false then
      .error .payloadTampered
    else .ok claims

/-! ## 3. `verifyMcpToolCall` -/

/-- `typeof v === 'object'`, of what is not `null`. -/
def isObject : Json → Bool
  | .arr _ => true
  | .obj _ => true
  | _ => false

/-- `key in authorized`, and both values have one text. -/
def argumentIs (authorized : Json) (p : Str × Json) : Bool :=
  match property authorized p.1 with
  | some v => libs.stringify v == libs.stringify p.2
  | none => false

/-- Every argument that is not ignored is in the payload. -/
def argumentsIn (ignored : List Str) (args : JsonObject) (authorized : Json) : Bool :=
  args.members.all (fun p => ignored.contains p.1 || argumentIs libs authorized p)

/-- `verifyMcpToolCall` -/
def verifyMcpToolCall (requestMeta : Option JsonObject) (toolName : Str) (args : JsonObject)
    (options : VerificationOptions) (ignoredArguments : List Str) :
    Except VerificationCode (Dict Json) :=
  match requestMeta.bind (fun m => m.members.lookup passportMetaKey),
      requestMeta.bind (fun m => m.members.lookup payloadMetaKey) with
  | some passport, some authorized =>
    if truthy passport = false ∨ isObject authorized = false then .error .missingPassport
    else
      match verifyPassport sha libs passport authorized
          { options with allowedActionTypes := some [toolName] } with
      | .error code => .error code
      | .ok claims =>
        if argumentsIn libs ignoredArguments args authorized then .ok claims
        else .error .argumentsMismatch
  | _, _ => .error .missingPassport

end

end Node

/-! ## 4. Values that both languages read as the same -/

/-- An integer that is its double. -/
def exactLeaf : Json → Bool
  | .int i => (floatOfInt i).any (fun x => (Json.int i).worth == (Json.float x).worth)
  | _ => true

/-- JSON whose numbers are doubles: each key once, no lone surrogates, and no integer that a
double would round. -/
structure Portable (v : Json) : Prop where
  wf : v.Wf
  isText : v.isText = true
  exact : Json.every exactLeaf (fun _ => true) v = true

instance (v : Json) : Decidable (Portable v) :=
  decidable_of_iff (v.Wf ∧ v.isText = true ∧ Json.every exactLeaf (fun _ => true) v = true)
    ⟨fun h => ⟨h.1, h.2.1, h.2.2⟩, fun h => ⟨h.wf, h.isText, h.exact⟩⟩

namespace Portable

theorem hasDoubles {v : Json} (h : Portable v) : v.hasDoubles = true := by
  refine Json.every_of_and ?_ (fun _ _ _ => rfl) h.exact h.exact
  intro u hu _
  cases u with
  | int i =>
    change (floatOfInt i).any _ = true at hu
    change (floatOfInt i).isSome = true
    generalize floatOfInt i = o at hu ⊢
    cases o with
    | none => cases hu
    | some x => rfl
  | _ => rfl

def data {v : Json} (h : Portable v) : JsonData := ⟨v, h.wf, h.isText, h.hasDoubles⟩

theorem of_mem {xs : List Json} (h : Portable (.arr xs)) {v : Json} (hv : v ∈ xs) : Portable v :=
  ⟨Json.wf_arr.mp h.wf v hv, Json.every_arr.mp h.isText v hv, Json.every_arr.mp h.exact v hv⟩

theorem of_member {ms : Dict Json} (h : Portable (.obj ms)) {p : Str × Json} (hp : p ∈ ms) :
    Portable p.2 :=
  ⟨(Json.wf_obj.mp h.wf).2 p hp, (Json.every_obj.mp h.isText).2 p hp,
    (Json.every_obj.mp h.exact).2 p hp⟩

/-- A number reads as a double of the same worth. -/
theorem int_toBinary64 {i : Int} (h : Portable (.int i)) :
    ∃ x, (Json.int i).toBinary64 = .float x ∧ (Json.float x).worth = (Json.int i).worth := by
  have hexact : (floatOfInt i).any (fun x => (Json.int i).worth == (Json.float x).worth) = true :=
    h.exact
  obtain ⟨x, hx, heq⟩ := (Option.any_eq_true _ _).mp hexact
  refine ⟨x, ?_, (beq_iff_eq.mp heq).symm⟩
  rw [Json.toBinary64, hx, Option.getD_some]

end Portable

theorem forall₂_congr_mem {α β : Type} {R S : α → β → Prop} {xs : List α} {ys : List β}
    (h : ∀ v ∈ xs, ∀ w ∈ ys, (R v w ↔ S v w)) : List.Forall₂ R xs ys ↔ List.Forall₂ S xs ys := by
  induction xs generalizing ys with
  | nil => cases ys <;> simp
  | cons v vs ih =>
    cases ys with
    | nil => simp
    | cons w ws =>
      have htail := @ih ws (fun v' hv' w' hw' => h v' (by simp [hv']) w' (by simp [hw']))
      rw [List.forall₂_cons, List.forall₂_cons, h v (by simp) w (by simp), htail]

/-- Portable values are the same data as doubles when they are as they are. -/
theorem sameData_toBinary64 {v w : Json} (hv : Portable v) (hw : Portable w) :
    Json.sameData v.toBinary64 w.toBinary64 = true ↔ Json.sameData v w = true := by
  unfold Json.sameData
  induction v using Json.inductValue generalizing w with
  | null =>
    cases w with
    | int j =>
      obtain ⟨y, hy, -⟩ := hw.int_toBinary64
      rw [hy]
      exact Iff.rfl
    | _ => exact Iff.rfl
  | bool b =>
    cases w with
    | int j =>
      obtain ⟨y, hy, -⟩ := hw.int_toBinary64
      rw [hy]
      exact Iff.rfl
    | _ => exact Iff.rfl
  | str t =>
    cases w with
    | int j =>
      obtain ⟨y, hy, -⟩ := hw.int_toBinary64
      rw [hy]
      exact Iff.rfl
    | _ => exact Iff.rfl
  -- an integer becomes a float here, and `hworth` says that it is worth the same
  | int i =>
    obtain ⟨x, hx, hworth⟩ := hv.int_toBinary64
    rw [hx]
    cases w with
    | int j =>
      obtain ⟨y, hy, hworth'⟩ := hw.int_toBinary64
      rw [hy]
      simp only [Json.same, Json.dataLeaf, Json.sameNumber, hworth, hworth']
    | arr ys =>
      simp only [Json.toBinary64, Json.same, Json.dataLeaf, Json.sameNumber, hworth]
      exact Iff.rfl
    | obj ns =>
      simp only [Json.toBinary64, Json.same, Json.dataLeaf, Json.sameNumber, hworth]
      exact Iff.rfl
    | _ => simp only [Json.toBinary64, Json.same, Json.dataLeaf, Json.sameNumber, hworth]
  | float x =>
    cases w with
    | int j =>
      obtain ⟨y, hy, hworth'⟩ := hw.int_toBinary64
      rw [hy]
      simp only [Json.toBinary64, Json.same, Json.dataLeaf, Json.sameNumber, hworth']
    | _ => exact Iff.rfl
  | arr xs ih =>
    cases w with
    | int j =>
      obtain ⟨y, hy, -⟩ := hw.int_toBinary64
      rw [hy]
      exact Iff.rfl
    | arr ys =>
      rw [Json.toBinary64, Json.toBinary64, Json.itemsToBinary64_eq_map,
        Json.itemsToBinary64_eq_map, Json.same_arr, Json.same_arr, List.forall₂_map_left_iff,
        List.forall₂_map_right_iff]
      exact forall₂_congr_mem (fun v hv' w hw' => ih v hv' (hv.of_mem hv') (hw.of_mem hw'))
    | _ => exact Iff.rfl
  | obj ms ih =>
    cases w with
    | int j =>
      obtain ⟨y, hy, -⟩ := hw.int_toBinary64
      rw [hy]
      exact Iff.rfl
    | obj ns =>
      rw [Json.toBinary64, Json.toBinary64, Json.membersToBinary64_eq_map,
        Json.membersToBinary64_eq_map, Json.same_obj, Json.same_obj, List.length_map,
        List.length_map]
      refine and_congr Iff.rfl ?_
      rw [List.forall_mem_map]
      refine forall₂_congr (fun p hp => ?_)
      rw [Dict.lookup_map]
      constructor
      · rintro ⟨w, hw', hsame⟩
        obtain ⟨u, hu, rfl⟩ := Option.map_eq_some_iff.mp hw'
        exact ⟨u, hu, (ih p hp (hv.of_member hp) (hw.of_member (Dict.lookup_mem hu))).mp hsame⟩
      · rintro ⟨u, hu, hsame⟩
        refine ⟨u.toBinary64, by rw [hu]; rfl, ?_⟩
        exact (ih p hp (hv.of_member hp) (hw.of_member (Dict.lookup_mem hu))).mpr hsame
    | _ => exact Iff.rfl

/-- Equality of trees follows equality of leaves. -/
theorem same_mono {f g : Json → Json → Bool} (hfg : ∀ v w, f v w = true → g v w = true)
    {v w : Json} (h : Json.same f v w = true) : Json.same g v w = true := by
  induction v using Json.inductValue generalizing w with
  | null => exact hfg _ _ h
  | bool b => exact hfg _ _ h
  | int i => exact hfg _ _ h
  | float x => exact hfg _ _ h
  | str t => exact hfg _ _ h
  | arr xs ih =>
    cases w with
    | arr ys =>
      have hall := Json.same_arr.mp h
      clear h
      refine Json.same_arr.mpr ?_
      induction hall with
      | nil => exact .nil
      | cons hvw _ ihs =>
        exact .cons (ih _ List.mem_cons_self hvw)
          (ihs (fun v hv => ih v (List.mem_cons_of_mem _ hv)))
    | _ => cases h
  | obj ms ih =>
    cases w with
    | obj ns =>
      obtain ⟨hlen, hall⟩ := Json.same_obj.mp h
      refine Json.same_obj.mpr ⟨hlen, ?_⟩
      intro p hp
      obtain ⟨u, hu, hsame⟩ := hall p hp
      exact ⟨u, hu, ih p hp hsame⟩
    | _ => cases h

/-- The same JSON data is equal in Python. -/
theorem pyEq_of_sameData {v w : Json} (h : Json.sameData v w = true) : v.pyEq w = true := by
  refine same_mono ?_ h
  intro v w h
  cases v with
  | null =>
    cases w with
    | null => rfl
    | _ => cases h
  | bool a =>
    cases w with
    | bool b =>
      cases beq_iff_eq.mp h
      exact @Json.sameNumber_self (Json.boolAsInt (.bool a)) _ rfl
    | _ => cases h
  | str s =>
    cases w with
    | str t => exact h
    | _ => cases h
  | int i =>
    cases w with
    | bool b => cases h
    | _ => exact h
  | float x =>
    cases w with
    | bool b =>
      change Json.sameNumber _ _ = true at h
      simp [Json.sameNumber, Json.worth] at h
    | _ => exact h
  | arr xs => cases h
  | obj ms => cases h

/-- `json-stable-stringify` writes the RFC 8785 text of a value, if it has one. -/
def Stringifies (libs : Node.Libraries) : Prop :=
  ∀ v : JsonData, Jcs v.value (libs.stringify v.value)

section Texts

variable {libs : Node.Libraries} (hlibs : Stringifies libs)

include hlibs

theorem canonicalJson_stringify (v : JsonData) :
    canonicalJson v.value = .ok (libs.stringify v.value) := by
  rw [canonicalJson_eq_render v.isCanonical,
    ← (jcs_iff_render v.wf v.isCanonical v.isText).mp (hlibs v)]

/-- Portable values have one text when they are the same data. -/
theorem stringify_eq_iff {v w : Json} (hv : Portable v) (hw : Portable w) :
    libs.stringify v = libs.stringify w ↔ Json.sameData v w = true := by
  have htv := canonicalJson_stringify hlibs hv.data
  have htw := canonicalJson_stringify hlibs hw.data
  have hdata := canonDoc_eq_iff hv.data.wf hw.data.wf hv.data.isCanonical hw.data.isCanonical
  refine Iff.trans ?_ (hdata.trans (sameData_toBinary64 hv hw))
  constructor
  · intro h
    exact canonDoc_eq_of_canonicalJson htv (h ▸ htw)
  · intro h
    have hdoc : canonicalJson hv.data.value = canonicalJson hw.data.value := by
      rw [canonicalJson_eq_render hv.data.isCanonical, canonicalJson_eq_render hw.data.isCanonical]
      exact congrArg _ (congrArg _ h)
    exact Except.ok.inj ((htv.symm.trans hdoc).trans htw)

end Texts

end Axg
