import Mathlib.Data.List.Nodup
import UsbRadioPlus.Rust.Str

/-!
# Tables of names

That the names of a table are different is computed on numbers. A name is spelled out (`Spelled`), the
characters are the digits of its code, and the codes are compared in pairs (`distinct`). What holds of the
spellings holds of the names (`Spelled.forall_mem`).
-/

namespace Rust

/-! ## Codes -/

/-- `codes` are different. -/
def distinct : List Nat → Bool
  | [] => true
  | code :: rest => rest.all (fun other => !Nat.beq code other) && distinct rest

theorem nodup_of_distinct : ∀ {codes : List Nat}, distinct codes = true → codes.Nodup
  | [], _ => List.nodup_nil
  | code :: rest, h => by
    rw [distinct, Bool.and_eq_true] at h
    refine List.nodup_cons.mpr ⟨fun hmem => ?_, nodup_of_distinct h.2⟩
    have hother := List.all_eq_true.mp h.1 code hmem
    rw [Nat.beq_refl] at hother
    cases hother

theorem nodup_of_codes {α : Type} {xs : List α} (code : α → Nat) (h : distinct (xs.map code) = true) :
    xs.Nodup :=
  List.Nodup.of_map code (nodup_of_distinct h)

/-! ## Spellings -/

/-- `texts` are the characters of `names`. -/
inductive Spelled : List String → List Str → Prop where
  | nil : Spelled [] []
  | cons {text : Str} {names : List String} {texts : List Str} (h : Spelled names texts) :
      Spelled (String.ofList text :: names) (text :: texts)

namespace Spelled

variable {names : List String} {texts : List Str}

theorem map_toList (h : Spelled names texts) : names.map String.toList = texts := by
  induction h with
  | nil => rfl
  | cons h ih => rw [List.map_cons, String.toList_ofList, ih]

/-- What holds of the characters of a literal, where its bytes are not computed. -/
theorem of_literal {P : Str → Prop} {name : String} {text : Str} (h : name = String.ofList text)
    (htext : P text) : P name.toList := by
  rw [h, String.toList_ofList]
  exact htext

/-- A number for each ASCII text. -/
def code (text : Str) : Nat := text.foldl (fun n c => n * 128 + c.toNat) 0

theorem nodup (h : Spelled names texts) (hcodes : distinct (texts.map code) = true) : names.Nodup := by
  have htexts : texts.Nodup := nodup_of_codes code hcodes
  rw [← h.map_toList] at htexts
  exact List.Nodup.of_map _ htexts

end Spelled

end Rust
