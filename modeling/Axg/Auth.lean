/-
# Callers (`axg/auth.py`)

A caller is the owner of an API key: the apps it may act for and the permissions it may let its
agents have.
-/
import Axg.Python.Json

namespace Axg

open Python

/-! ## 1. Text -/

/-- A `str` that a pydantic field accepts: Unicode text. -/
structure Text where
  str : Str
  isScalar : IsScalar str
deriving DecidableEq

instance : Coe Text Str := ⟨Text.str⟩

theorem isScalar_lit (s : String) : IsScalar (lit s) := by
  intro c hc
  obtain ⟨ch, -, rfl⟩ := List.mem_map.mp hc
  have hv : ch.toNat < 0xD800 ∨ 0xDFFF < ch.toNat ∧ ch.toNat < 0x110000 := ch.valid
  have hval : (CodePoint.ofChar ch).val = ch.toNat := by
    simp only [CodePoint.ofChar, Fin.ofNat]
    exact Nat.mod_eq_of_lt (by omega)
  simp only [isSurrogate, hval, Bool.and_eq_false_iff, decide_eq_false_iff_not]
  omega

namespace Text

/-- A literal of the source. -/
def lit (s : String) : Text := ⟨Python.lit s, isScalar_lit s⟩

def append (s t : Text) : Text := ⟨s.str ++ t.str, isScalar_append.mpr ⟨s.isScalar, t.isScalar⟩⟩

instance : Append Text := ⟨append⟩

@[simp] theorem str_lit (s : String) : (lit s).str = Python.lit s := rfl

@[simp] theorem str_append (s t : Text) : (s ++ t).str = s.str ++ t.str := rfl

theorem ext_iff {s t : Text} : s = t ↔ s.str = t.str := by
  cases s; cases t; simp

end Text

/-! ## 2. Callers -/

/-- `WILDCARD` -/
def wildcard : Text := .lit "*"

/-- `permissions` is `none` for a caller whose word on its agents' permissions is taken. -/
structure Caller where
  clientId : Text
  authenticated : Bool
  appIds : List Text
  permissions : Option (List Text)

namespace Caller

def mayActFor (caller : Caller) (appId : Text) : Bool :=
  caller.appIds.contains wildcard || caller.appIds.contains appId

/-- Agent permissions capped by what this caller may grant. -/
def effectivePermissions (caller : Caller) (requested : List Text) : List Text :=
  match caller.permissions with
  | none => requested
  | some permissions =>
    if permissions.contains wildcard then requested
    else requested.filter permissions.contains

/-- `TRUSTED_LOCAL` -/
def trustedLocal : Caller := ⟨.lit "local", true, [wildcard], none⟩

/-- `ANONYMOUS` -/
def anonymous : Caller := ⟨.lit "anonymous", false, [wildcard], some []⟩

/-- May the caller let an agent have the permission? -/
def mayGrant (caller : Caller) (permission : Text) : Bool :=
  match caller.permissions with
  | none => true
  | some permissions => permissions.contains wildcard || permissions.contains permission

theorem mem_effectivePermissions {caller : Caller} {requested : List Text} {p : Text} :
    p ∈ caller.effectivePermissions requested ↔ p ∈ requested ∧ caller.mayGrant p = true := by
  unfold effectivePermissions mayGrant
  cases caller.permissions with
  | none => simp
  | some permissions =>
    simp only
    split
    · rename_i h; simp only [h, Bool.true_or, and_true]
    · rename_i h
      simp only [Bool.not_eq_true] at h
      simp only [List.mem_filter, h, Bool.false_or]

end Caller

end Axg
