import DdeTrayLoader.Keyboard.LayoutMenu

/-!
# The short names of the layouts

A short name is made of the first two UTF-16 units of a layout, and of a number where several
layouts have the same first part. Layouts are numbered among those with the same first part, but
only two units of it are shown.
-/

namespace DdeTrayLoader.Keyboard

open Qt

/-! ## The parts of a short name -/

/-- The units of the first part that are shown. -/
def shortPart (kb : String) : QString := (utf16 (firstPart kb)).take 2

/-- The layouts with the same first part. -/
def group (userLayoutList : List String) (kb : String) : List String :=
  userLayoutList.filter fun data => firstPart data == firstPart kb

/-- The number of a layout in its group, if there are others in it. -/
def groupNumber (userLayoutList : List String) (kb : String) : Option ℕ :=
  if 1 < (group userLayoutList kb).length then some (indexFromOne (group userLayoutList kb) kb)
  else none

/-- The digits of a number, if there is one. -/
def numberDigits : Option ℕ → QString
  | none => []
  | some n => utf16 (toString n)

theorem numberDigits_injective {number number' : Option ℕ}
    (h : numberDigits number = numberDigits number') : number = number' := by
  have hdigits (n : ℕ) : numberDigits (some n) ≠ numberDigits none := by
    intro hnil
    have htext : toString n = "" := utf16_injective hnil
    exact Nat.repr_ne_empty htext
  match number, number' with
  | none, none => rfl
  | none, some n => exact absurd h.symm (hdigits n)
  | some n, none => exact absurd h (hdigits n)
  | some n, some n' =>
    have htext : toString n = toString n' := utf16_injective h
    have hvalue := congrArg (fun text => Nat.ofDigitChars 10 text.toList 0) htext
    simp only [Nat.toString_eq_repr, Nat.toList_repr, Nat.ofDigitChars_ten_toDigits] at hvalue
    rw [hvalue]

/-- A short name consists of these parts. -/
theorem duplicateCheck_eq (userLayoutList : List String) (kb : String) :
    duplicateCheck userLayoutList kb =
      shortPart kb ++ numberDigits (groupNumber userLayoutList kb) := by
  unfold duplicateCheck groupNumber
  change (shortPart kb ++ if 1 < (group userLayoutList kb).length then
    utf16 (toString (indexFromOne (group userLayoutList kb) kb)) else []) = _
  split_ifs <;> rfl

/-! ## Which layouts have the same name -/

/-- Both parts of the names are the same. -/
def SameParts (userLayoutList : List String) (kb kb' : String) : Prop :=
  shortPart kb = shortPart kb' ∧ groupNumber userLayoutList kb = groupNumber userLayoutList kb'

/-- The second layout shows more units than the first one, and these are the digits with which the
number of the first one begins; the other digits are the number of the second one. -/
def ReadsAsNumber (userLayoutList : List String) (kb kb' : String) : Prop :=
  ∃ shown ≠ [], shortPart kb' = shortPart kb ++ shown ∧
    numberDigits (groupNumber userLayoutList kb) =
      shown ++ numberDigits (groupNumber userLayoutList kb')

/-- Two layouts with different first parts whose names are told apart. -/
def ToldApart (userLayoutList : List String) (kb kb' : String) : Prop :=
  ¬SameParts userLayoutList kb kb' ∧ ¬ReadsAsNumber userLayoutList kb kb' ∧
    ¬ReadsAsNumber userLayoutList kb' kb

/-- A layout is in its group. -/
theorem mem_group {userLayoutList : List String} {kb kb' : String} :
    kb' ∈ group userLayoutList kb ↔ kb' ∈ userLayoutList ∧ firstPart kb' = firstPart kb := by
  simp [group]

/-- Different layouts of one group have different names. -/
theorem duplicateCheck_ne {userLayoutList : List String} {kb kb' : String}
    (hkb : kb ∈ userLayoutList) (hkb' : kb' ∈ userLayoutList) (hne : kb ≠ kb')
    (hfirst : firstPart kb = firstPart kb') :
    duplicateCheck userLayoutList kb ≠ duplicateCheck userLayoutList kb' := by
  intro hname
  have hgroup : group userLayoutList kb' = group userLayoutList kb := by
    unfold group
    rw [hfirst]
  have hmem : kb ∈ group userLayoutList kb := mem_group.mpr ⟨hkb, rfl⟩
  have hmem' : kb' ∈ group userLayoutList kb := mem_group.mpr ⟨hkb', hfirst.symm⟩
  have hseveral : 1 < (group userLayoutList kb).length := by
    by_contra hone
    obtain ⟨a, ha⟩ := List.length_eq_one_iff.mp
      (show (group userLayoutList kb).length = 1 by
        have := List.length_pos_of_mem hmem
        omega)
    rw [ha, List.mem_singleton] at hmem hmem'
    exact hne (hmem.trans hmem'.symm)
  have hshort : shortPart kb = shortPart kb' := by
    unfold shortPart
    rw [hfirst]
  rw [duplicateCheck_eq, duplicateCheck_eq, hshort] at hname
  have hnumbers := numberDigits_injective (List.append_cancel_left hname)
  unfold groupNumber at hnumbers
  rw [hgroup, if_pos hseveral, if_pos hseveral] at hnumbers
  have hindex : (group userLayoutList kb).idxOf kb = (group userLayoutList kb).idxOf kb' := by
    have hplaces := Option.some.inj hnumbers
    unfold indexFromOne at hplaces
    rw [if_pos hmem, if_pos hmem'] at hplaces
    exact Nat.succ.inj hplaces
  exact hne ((List.idxOf_inj hmem).mp hindex)

/-- Two layouts have the same name exactly if the parts of the names are the same, or one reads as
a number what the other shows. -/
theorem duplicateCheck_eq_iff (userLayoutList : List String) (kb kb' : String) :
    duplicateCheck userLayoutList kb = duplicateCheck userLayoutList kb' ↔
      SameParts userLayoutList kb kb' ∨ ReadsAsNumber userLayoutList kb kb' ∨
        ReadsAsNumber userLayoutList kb' kb := by
  rw [duplicateCheck_eq, duplicateCheck_eq]
  constructor
  · intro happend
    rcases List.append_eq_append_iff.mp happend with
      ⟨shown, hshort, hdigits⟩ | ⟨shown, hshort, hdigits⟩
    · by_cases hnil : shown = []
      · rw [hnil, List.append_nil] at hshort
        rw [hnil, List.nil_append] at hdigits
        exact .inl ⟨hshort.symm, numberDigits_injective hdigits⟩
      · exact .inr (.inl ⟨shown, hnil, hshort, hdigits⟩)
    · by_cases hnil : shown = []
      · rw [hnil, List.append_nil] at hshort
        rw [hnil, List.nil_append] at hdigits
        exact .inl ⟨hshort, numberDigits_injective hdigits.symm⟩
      · exact .inr (.inr ⟨shown, hnil, hshort, hdigits⟩)
  · rintro (⟨hshort, hnumber⟩ | ⟨shown, -, hshort, hdigits⟩ | ⟨shown, -, hshort, hdigits⟩)
    · rw [hshort, hnumber]
    · rw [hshort, hdigits, List.append_assoc]
    · rw [hshort, hdigits, List.append_assoc]

/-- Of a character that is two units, the names show nothing else. -/
example : duplicateCheck ["😀a;", "😀b;"] "😀a;" = duplicateCheck ["😀a;", "😀b;"] "😀b;" := by
  decide +kernel

/-- A layout that shows two units does not read as the number of another one that does. -/
theorem not_readsAsNumber {userLayoutList : List String} {kb kb' : String}
    (hkb : (shortPart kb).length = 2) (hkb' : (shortPart kb').length = 2) :
    ¬ReadsAsNumber userLayoutList kb kb' := by
  rintro ⟨shown, hnil, hparts, -⟩
  have hlength := congrArg List.length hparts
  rw [List.length_append, hkb, hkb'] at hlength
  exact hnil (List.length_eq_zero_iff.mp (by omega))

/-- Different first parts of two units are told apart. -/
theorem toldApart_of_length {userLayoutList : List String} {kb kb' : String}
    (hkb : (utf16 (firstPart kb)).length = 2) (hkb' : (utf16 (firstPart kb')).length = 2)
    (hfirst : firstPart kb ≠ firstPart kb') : ToldApart userLayoutList kb kb' := by
  have hshort : shortPart kb = utf16 (firstPart kb) := List.take_of_length_le hkb.le
  have hshort' : shortPart kb' = utf16 (firstPart kb') := List.take_of_length_le hkb'.le
  have hlength : (shortPart kb).length = 2 := by rw [hshort, hkb]
  have hlength' : (shortPart kb').length = 2 := by rw [hshort', hkb']
  refine ⟨fun hsame => ?_, not_readsAsNumber hlength hlength', not_readsAsNumber hlength' hlength⟩
  have hlists := hsame.1
  rw [hshort, hshort'] at hlists
  exact hfirst (utf16_injective hlists)

/-- A list with two different elements has two elements or more. -/
theorem two_le_length {userLayoutList : List String} {index index' : ℕ} {kb kb' : String}
    (hindex : userLayoutList[index]? = some kb) (hindex' : userLayoutList[index']? = some kb')
    (hne : kb ≠ kb') : 2 ≤ userLayoutList.length := by
  by_contra hshort
  have hlt := (List.getElem?_eq_some_iff.mp hindex).1
  have hlt' := (List.getElem?_eq_some_iff.mp hindex').1
  have hsame : index = index' := by omega
  rw [hsame, hindex'] at hindex
  exact hne (Option.some.inj hindex).symm

namespace KeyboardSystem

/-! ## The menu -/

/-- The entry at an index is that of a layout, and shows a short name. -/
def Labels (s : KeyboardSystem) (index : ℕ) (layout : String) (name : QString) : Prop :=
  ∃ action, s.m_menu[index]? = some action ∧ action.objectName = layout ∧
    action.text = utf16 ((s.m_allLayoutList.lookup layout).getD "") ++ utf16 " (" ++ name ++
      utf16 ")"

/-- A menu that is built anew labels any two different layouts with different short names. -/
def NamesDistinguish (s : KeyboardSystem) : Prop :=
  ∀ (index index' : ℕ) (kb kb' : String) (name name' : QString),
    s.m_userLayoutList[index]? = some kb → s.m_userLayoutList[index']? = some kb' → kb ≠ kb' →
      s.refreshMenu.Labels index kb name → s.refreshMenu.Labels index' kb' name' → name ≠ name'

/-- A menu of two layouts or more labels each of them with its short name. -/
theorem labels_refreshMenu {s : KeyboardSystem} (hlist : 2 ≤ s.m_userLayoutList.length)
    {index : ℕ} {kb : String} (hkb : s.m_userLayoutList[index]? = some kb) (name : QString) :
    s.refreshMenu.Labels index kb name ↔ name = duplicateCheck s.m_userLayoutList kb := by
  have hindex : index < s.m_userLayoutList.length := (List.getElem?_eq_some_iff.mp hkb).1
  have haction : s.refreshMenu.m_menu[index]? = some (s.layoutAction kb) := by
    rw [refreshMenu, if_neg (by omega), List.getElem?_append_left (by simpa using hindex),
      List.getElem?_map, hkb]
    rfl
  have hnames : s.refreshMenu.m_allLayoutList = s.m_allLayoutList := by
    rw [refreshMenu, if_neg (by omega)]
  unfold Labels
  rw [haction, hnames]
  constructor
  · rintro ⟨action, hsome, -, htext⟩
    cases hsome
    change _ ++ utf16 " (" ++ duplicateCheck s.m_userLayoutList kb ++ utf16 ")" = _ at htext
    rw [List.append_left_inj, List.append_right_inj] at htext
    exact htext.symm
  · rintro rfl
    exact ⟨_, rfl, rfl, rfl⟩

/-- The names tell the layouts apart if those with different first parts are told apart. -/
theorem namesDistinguish_of_toldApart {s : KeyboardSystem}
    (h : ∀ kb ∈ s.m_userLayoutList, ∀ kb' ∈ s.m_userLayoutList,
      firstPart kb ≠ firstPart kb' → ToldApart s.m_userLayoutList kb kb') :
    s.NamesDistinguish := by
  intro index index' kb kb' name name' hindex hindex' hne hlabel hlabel'
  have hkb := List.mem_iff_getElem?.mpr ⟨index, hindex⟩
  have hkb' := List.mem_iff_getElem?.mpr ⟨index', hindex'⟩
  have hlist := two_le_length hindex hindex' hne
  rw [(labels_refreshMenu hlist hindex name).mp hlabel,
    (labels_refreshMenu hlist hindex' name').mp hlabel']
  by_cases hfirst : firstPart kb = firstPart kb'
  · exact duplicateCheck_ne hkb hkb' hne hfirst
  · rw [Ne, duplicateCheck_eq_iff, not_or, not_or]
    exact h kb hkb kb' hkb' hfirst

/-- The names tell layouts apart whose first parts are of two units. -/
theorem namesDistinguish_of_length {s : KeyboardSystem}
    (hlength : ∀ kb ∈ s.m_userLayoutList, (utf16 (firstPart kb)).length = 2) :
    s.NamesDistinguish :=
  namesDistinguish_of_toldApart fun kb hkb kb' hkb' hfirst =>
    toldApart_of_length (hlength kb hkb) (hlength kb' hkb') hfirst

end KeyboardSystem

end DdeTrayLoader.Keyboard
