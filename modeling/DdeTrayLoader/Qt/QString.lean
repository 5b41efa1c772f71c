import Mathlib.Data.List.Basic

/-!
# Strings of UTF-16 units

The positions and lengths of a `QString` count UTF-16 units. A character beyond the first 65536 is
made of two of them, surrogates, which are no characters by themselves, and may be cut in two.
-/

namespace DdeTrayLoader.Qt

/-- A UTF-16 unit. -/
abbrev QChar := UInt16

abbrev QString := List QChar

/-- The unit of a character of Latin-1. -/
def latin1 (c : Char) : QChar := UInt16.ofNat c.toNat

/-- The units of a character: itself, or a high and a low surrogate. -/
def charUnits (c : Char) : QString :=
  if c.toNat < 0x10000 then [UInt16.ofNat c.toNat]
  else
    [UInt16.ofNat (0xD800 + (c.toNat - 0x10000) / 0x400),
      UInt16.ofNat (0xDC00 + (c.toNat - 0x10000) % 0x400)]

/-- The units of a text. -/
def utf16 (text : String) : QString := text.toList.flatMap charUnits

/-- A character is no surrogate. -/
theorem toNat_valid (c : Char) :
    c.toNat < 0xD800 ∨ 0xDFFF < c.toNat ∧ c.toNat < 0x110000 := c.valid

theorem charUnits_ne_nil (c : Char) : charUnits c ≠ [] := by
  unfold charUnits
  split_ifs <;> simp

/-- The units that a sequence begins with tell its first character. -/
theorem charUnits_append_inj {c d : Char} {units units' : QString}
    (h : charUnits c ++ units = charUnits d ++ units') : c = d ∧ units = units' := by
  have hc := toNat_valid c
  have hd := toNat_valid d
  have hunit {m n : ℕ} (hm : m < 0x10000) (hn : n < 0x10000)
      (heq : UInt16.ofNat m = UInt16.ofNat n) : m = n := by
    have hnat := congrArg UInt16.toNat heq
    rw [UInt16.toNat_ofNat_of_lt' hm, UInt16.toNat_ofNat_of_lt' hn] at hnat
    exact hnat
  unfold charUnits at h
  split_ifs at h with hsmall hsmall' hsmall'
  · obtain ⟨hhead, htail⟩ := List.cons_eq_cons.mp h
    exact ⟨Char.toNat_inj.mp (hunit hsmall hsmall' hhead), htail⟩
  · -- A character that is one unit is no high surrogate.
    have hhead := hunit hsmall (by omega) (List.cons_eq_cons.mp h).1
    omega
  · have hhead := hunit (by omega) hsmall' (List.cons_eq_cons.mp h).1
    omega
  · obtain ⟨hhead, hrest⟩ := List.cons_eq_cons.mp h
    obtain ⟨hsecond, htail⟩ := List.cons_eq_cons.mp hrest
    have hhigh := hunit (by omega) (by omega) hhead
    have hlow := hunit (by omega) (by omega) hsecond
    exact ⟨Char.toNat_inj.mp (by omega), htail⟩

/-- Different texts have different units. -/
theorem utf16_injective : Function.Injective utf16 := by
  intro text text' h
  rw [← String.toList_inj]
  unfold utf16 at h
  generalize text.toList = chars at h ⊢
  generalize text'.toList = chars' at h ⊢
  induction chars generalizing chars' with
  | nil =>
    cases chars' with
    | nil => rfl
    | cons d chars' =>
      have hnil : charUnits d = [] := (List.append_eq_nil_iff.mp h.symm).1
      exact absurd hnil (charUnits_ne_nil d)
  | cons c chars ih =>
    cases chars' with
    | nil =>
      have hnil : charUnits c = [] := (List.append_eq_nil_iff.mp h).1
      exact absurd hnil (charUnits_ne_nil c)
    | cons d chars' =>
      obtain ⟨rfl, hrest⟩ := charUnits_append_inj (h : charUnits c ++ _ = charUnits d ++ _)
      rw [ih _ hrest]

end DdeTrayLoader.Qt
