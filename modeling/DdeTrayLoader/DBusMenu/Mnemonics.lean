import Mathlib.Data.List.Basic
import Mathlib.Data.List.Induction

/-!
# Mnemonics in labels

A label marks the key that activates its item by a character put before it: `_` on the bus, `&`
in Qt. In both, the marker written twice stands for itself, and a marker that marks nothing is not
shown. `swapMnemonicChar` rewrites a label from one marker to the other.

What a label shows, and which character it marks, is stated here for any marker, and the
rewritten label is compared with the original by it.
-/

namespace DdeTrayLoader.DBusMenu

/-- The loop of `swapMnemonicChar`, from `mnemonicFound` and the characters left. -/
def swapFrom (src dst : Char) : Bool → List Char → List Char
  | _, [] => []
  | _, [ch] => if ch = src then [] else if ch = dst then [dst, dst] else [ch]
  | mnemonicFound, ch :: next :: rest =>
    if ch = src then
      if next = src then src :: swapFrom src dst mnemonicFound rest
      else if mnemonicFound then swapFrom src dst true (next :: rest)
      else dst :: swapFrom src dst true (next :: rest)
    else if ch = dst then dst :: dst :: swapFrom src dst mnemonicFound (next :: rest)
    else ch :: swapFrom src dst mnemonicFound (next :: rest)

def swapMnemonicChar (label : List Char) (src dst : Char) : List Char :=
  swapFrom src dst false label

/-- A label as it is shown: its characters, and whether each is the mnemonic. A marker that is
doubled is shown once, another one is not shown, and the first of these that is not the last
character marks the character after it. -/
def shownFrom (marker : Char) : Bool → List Char → List (Char × Bool)
  | _, [] => []
  | _, [ch] => if ch = marker then [] else [(ch, false)]
  | found, ch :: next :: rest =>
    if ch = marker then
      if next = marker then (marker, false) :: shownFrom marker found rest
      else if found then shownFrom marker true (next :: rest)
      else (next, true) :: shownFrom marker true rest
    else (ch, false) :: shownFrom marker found (next :: rest)

/-- What a label shows in a toolkit with this marker. -/
def shownAs (marker : Char) (label : List Char) : List (Char × Bool) :=
  shownFrom marker false label

/-- The characters that are shown. -/
def plain (shown : List (Char × Bool)) : List Char := shown.map Prod.fst

/-- The character is marked somewhere. -/
def Marks (shown : List (Char × Bool)) (ch : Char) : Prop := (ch, true) ∈ shown

instance (shown : List (Char × Bool)) (ch : Char) : Decidable (Marks shown ch) :=
  inferInstanceAs (Decidable (_ ∈ _))

@[simp] theorem plain_cons (shown : List (Char × Bool)) (ch : Char) (mark : Bool) :
    plain ((ch, mark) :: shown) = ch :: plain shown := rfl

@[simp] theorem marks_cons_false (shown : List (Char × Bool)) (ch ch' : Char) :
    Marks ((ch', false) :: shown) ch ↔ Marks shown ch := by
  simp [Marks]

/-! ## One character at a time -/

section
variable {src dst marker : Char} {found : Bool}

theorem shownFrom_singleton (ch : Char) :
    shownFrom marker found [ch] = if ch = marker then [] else [(ch, false)] := rfl

theorem shownFrom_cons_cons (ch next : Char) (rest : List Char) :
    shownFrom marker found (ch :: next :: rest) =
      if ch = marker then
        if next = marker then (marker, false) :: shownFrom marker found rest
        else if found then shownFrom marker true (next :: rest)
        else (next, true) :: shownFrom marker true rest
      else (ch, false) :: shownFrom marker found (next :: rest) := rfl

theorem swapFrom_singleton (ch : Char) :
    swapFrom src dst found [ch] = if ch = src then [] else if ch = dst then [dst, dst] else [ch] :=
  rfl

theorem swapFrom_cons_cons (ch next : Char) (rest : List Char) :
    swapFrom src dst found (ch :: next :: rest) =
      if ch = src then
        if next = src then src :: swapFrom src dst found rest
        else if found then swapFrom src dst true (next :: rest)
        else dst :: swapFrom src dst true (next :: rest)
      else if ch = dst then dst :: dst :: swapFrom src dst found (next :: rest)
      else ch :: swapFrom src dst found (next :: rest) := rfl

/-- A character that is not the marker is shown. -/
theorem shownFrom_cons_of_ne {ch : Char} (h : ch ≠ marker) (rest : List Char) :
    shownFrom marker found (ch :: rest) = (ch, false) :: shownFrom marker found rest := by
  cases rest with
  | nil => rw [shownFrom_singleton, if_neg h]; rfl
  | cons next rest => rw [shownFrom_cons_cons, if_neg h]

/-- A doubled marker is shown once. -/
theorem shownFrom_double (rest : List Char) :
    shownFrom marker found (marker :: marker :: rest) =
      (marker, false) :: shownFrom marker found rest := by
  rw [shownFrom_cons_cons, if_pos rfl, if_pos rfl]

/-- The first single marker marks the next character. -/
theorem shownFrom_mark {ch : Char} (h : ch ≠ marker) (rest : List Char) :
    shownFrom marker false (marker :: ch :: rest) = (ch, true) :: shownFrom marker true rest := by
  rw [shownFrom_cons_cons, if_pos rfl, if_neg h, if_neg Bool.false_ne_true]

/-- A later single marker is not shown. -/
theorem shownFrom_skip {ch : Char} (h : ch ≠ marker) (rest : List Char) :
    shownFrom marker true (marker :: ch :: rest) = shownFrom marker true (ch :: rest) := by
  rw [shownFrom_cons_cons, if_pos rfl, if_neg h, if_pos rfl]

/-- A marker at the end is not shown. -/
theorem shownFrom_last : shownFrom marker found [marker] = [] := by
  rw [shownFrom_singleton, if_pos rfl]

/-- A character that is neither marker is copied. -/
theorem swapFrom_cons_of_ne {ch : Char} (hsrc : ch ≠ src) (hdst : ch ≠ dst) (rest : List Char) :
    swapFrom src dst found (ch :: rest) = ch :: swapFrom src dst found rest := by
  cases rest with
  | nil => rw [swapFrom_singleton, if_neg hsrc, if_neg hdst]; rfl
  | cons next rest => rw [swapFrom_cons_cons, if_neg hsrc, if_neg hdst]

/-- The new marker is escaped. -/
theorem swapFrom_escape (hne : src ≠ dst) (rest : List Char) :
    swapFrom src dst found (dst :: rest) = dst :: dst :: swapFrom src dst found rest := by
  cases rest with
  | nil => rw [swapFrom_singleton, if_neg hne.symm, if_pos rfl]; rfl
  | cons next rest => rw [swapFrom_cons_cons, if_neg hne.symm, if_pos rfl]

/-- A doubled old marker is copied once. -/
theorem swapFrom_double (rest : List Char) :
    swapFrom src dst found (src :: src :: rest) = src :: swapFrom src dst found rest := by
  rw [swapFrom_cons_cons, if_pos rfl, if_pos rfl]

/-- The first single marker is replaced. -/
theorem swapFrom_mark {ch : Char} (h : ch ≠ src) (rest : List Char) :
    swapFrom src dst false (src :: ch :: rest) = dst :: swapFrom src dst true (ch :: rest) := by
  rw [swapFrom_cons_cons, if_pos rfl, if_neg h, if_neg Bool.false_ne_true]

/-- A later single marker is dropped. -/
theorem swapFrom_skip {ch : Char} (h : ch ≠ src) (rest : List Char) :
    swapFrom src dst true (src :: ch :: rest) = swapFrom src dst true (ch :: rest) := by
  rw [swapFrom_cons_cons, if_pos rfl, if_neg h, if_pos rfl]

/-- A marker at the end is dropped. -/
theorem swapFrom_last : swapFrom src dst found [src] = [] := by
  rw [swapFrom_singleton, if_pos rfl]

end

/-- Induction on a label, from what is left after its first character and after its first two. -/
theorem label_induction {motive : List Char → Prop} (nil : motive [])
    (cons : ∀ ch rest, motive rest → (∀ next rest', rest = next :: rest' → motive rest') →
      motive (ch :: rest)) (label : List Char) : motive label := by
  induction label using List.twoStepInduction with
  | nil => exact nil
  | singleton ch => exact cons ch [] nil nofun
  | cons_cons ch next rest hrest hnext =>
    refine cons ch (next :: rest) (hnext next) ?_
    rintro _ _ ⟨⟩
    exact hrest

/-- Nothing is marked once the mnemonic is found. -/
theorem not_marks_shownFrom_true {marker : Char} (label : List Char) {ch : Char} :
    ¬Marks (shownFrom marker true label) ch := by
  induction label using label_induction with
  | nil => exact List.not_mem_nil
  | cons ch' rest hrest htail =>
    by_cases hmarker : ch' = marker
    · subst hmarker
      cases rest with
      | nil =>
        rw [shownFrom_last]
        exact List.not_mem_nil
      | cons next rest =>
        by_cases hnext : next = ch'
        · subst hnext
          rw [shownFrom_double, marks_cons_false]
          exact htail next rest rfl
        · rw [shownFrom_skip hnext]
          exact hrest
    · rw [shownFrom_cons_of_ne hmarker, marks_cons_false]
      exact hrest

/-! ## After the mnemonic -/

section
variable {src dst : Char} (hne : src ≠ dst)
include hne

/-- Once the mnemonic is found, the rest of the label is shown as it was. -/
theorem shownFrom_swapFrom_true (found : Bool) (label : List Char) :
    shownFrom dst found (swapFrom src dst true label) = shownFrom src true label := by
  induction label using label_induction with
  | nil => rfl
  | cons ch rest hrest htail =>
    by_cases hsrc : ch = src
    · subst hsrc
      cases rest with
      | nil =>
        rw [swapFrom_last, shownFrom_last]
        rfl
      | cons next rest =>
        by_cases hnext : next = ch
        · subst hnext
          rw [swapFrom_double, shownFrom_cons_of_ne hne, shownFrom_double, htail next rest rfl]
        · rw [swapFrom_skip hnext, shownFrom_skip hnext, hrest]
    · rw [shownFrom_cons_of_ne hsrc]
      by_cases hdst : ch = dst
      · subst hdst
        rw [swapFrom_escape hne, shownFrom_double, hrest]
      · rw [swapFrom_cons_of_ne hsrc hdst, shownFrom_cons_of_ne hdst, hrest]

/-- A new marker put before the rest of the label changes none of the characters shown. -/
theorem plain_shownFrom_cons_swapFrom (label : List Char) :
    plain (shownFrom dst false (dst :: swapFrom src dst true label)) =
      plain (shownFrom src true label) := by
  induction label using label_induction with
  | nil => exact congrArg plain shownFrom_last
  | cons ch rest hrest htail =>
    by_cases hsrc : ch = src
    · subst hsrc
      cases rest with
      | nil => rw [swapFrom_last, shownFrom_last, shownFrom_last]
      | cons next rest =>
        by_cases hnext : next = ch
        · subst hnext
          rw [swapFrom_double, shownFrom_mark hne, shownFrom_double,
            shownFrom_swapFrom_true hne, plain_cons, plain_cons]
        · rw [swapFrom_skip hnext, shownFrom_skip hnext, hrest]
    · rw [shownFrom_cons_of_ne hsrc, plain_cons]
      by_cases hdst : ch = dst
      · subst hdst
        rw [swapFrom_escape hne, shownFrom_double, plain_cons, hrest]
      · rw [swapFrom_cons_of_ne hsrc hdst, shownFrom_mark hdst, plain_cons,
          shownFrom_swapFrom_true hne]

/-! ## The whole label -/

/-- Before the mnemonic, the swap keeps the characters, and the mark unless it is on the new
marker. -/
theorem shownFrom_swapFrom_false (label : List Char) :
    plain (shownFrom dst false (swapFrom src dst false label)) =
        plain (shownFrom src false label) ∧
      (shownFrom dst false (swapFrom src dst false label) = shownFrom src false label ↔
        ¬Marks (shownFrom src false label) dst) := by
  induction label using label_induction with
  | nil => exact ⟨rfl, iff_of_true rfl List.not_mem_nil⟩
  | cons ch rest hrest htail =>
    by_cases hsrc : ch = src
    · subst hsrc
      cases rest with
      | nil =>
        rw [swapFrom_last, shownFrom_last]
        exact ⟨rfl, iff_of_true rfl List.not_mem_nil⟩
      | cons next rest =>
        by_cases hnext : next = ch
        · subst hnext
          obtain ⟨hplain, hiff⟩ := htail next rest rfl
          rw [swapFrom_double, shownFrom_cons_of_ne hne, shownFrom_double, plain_cons,
            plain_cons, hplain, marks_cons_false]
          exact ⟨rfl, (List.cons_inj_right _).trans hiff⟩
        · rw [swapFrom_mark hnext, shownFrom_mark hnext]
          by_cases hdst : next = dst
          · subst hdst
            rw [swapFrom_escape hne, shownFrom_double, plain_cons, plain_cons,
              plain_shownFrom_cons_swapFrom hne]
            exact ⟨rfl, iff_of_false (by simp) fun hnot => hnot List.mem_cons_self⟩
          · rw [swapFrom_cons_of_ne hnext hdst, shownFrom_mark hdst, shownFrom_swapFrom_true hne]
            refine ⟨rfl, iff_of_true rfl ?_⟩
            intro hmarks
            rcases List.mem_cons.mp hmarks with hhead | htail
            · exact hdst (Prod.mk.inj hhead).1.symm
            · exact not_marks_shownFrom_true rest htail
    · rw [shownFrom_cons_of_ne hsrc]
      by_cases hdst : ch = dst
      · subst hdst
        rw [swapFrom_escape hne, shownFrom_double, plain_cons, plain_cons, hrest.1,
          marks_cons_false]
        exact ⟨rfl, (List.cons_inj_right _).trans hrest.2⟩
      · rw [swapFrom_cons_of_ne hsrc hdst, shownFrom_cons_of_ne hdst, plain_cons, plain_cons,
          hrest.1, marks_cons_false]
        exact ⟨rfl, (List.cons_inj_right _).trans hrest.2⟩

/-- A label shows the same characters in the new toolkit, and marks the same one exactly when the
one marked is not the new marker itself. -/
theorem shownAs_swapMnemonicChar (label : List Char) :
    plain (shownAs dst (swapMnemonicChar label src dst)) = plain (shownAs src label) ∧
      (shownAs dst (swapMnemonicChar label src dst) = shownAs src label ↔
        ¬Marks (shownAs src label) dst) :=
  shownFrom_swapFrom_false hne label

end

theorem shownAs_swapMnemonicChar_open :
    '_' ≠ '&' ∧ plain (shownAs '&' (swapMnemonicChar ['_', 'O'] '_' '&')) =
      plain (shownAs '_' ['_', 'O']) :=
  ⟨by decide, (shownAs_swapMnemonicChar (by decide) ['_', 'O']).1⟩

/-- The marker of a label on the bus may mark the marker of Qt, and the mark is lost. -/
example : shownAs '&' (swapMnemonicChar ['_', '&', 'a'] '_' '&') = [('&', false), ('a', true)] ∧
    shownAs '_' ['_', '&', 'a'] = [('&', true), ('a', false)] := by decide

end DdeTrayLoader.DBusMenu
