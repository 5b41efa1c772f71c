import DdeTrayLoader.Lists.Replace

/-!
# Shortcuts on the bus

A shortcut is a list of key combinations, each the list of its keys by name. Qt writes it as one
text, with the keys of a combination joined by `+` and the combinations by `, `, and gives some
keys other names. The names on the bus are put in and taken out by replacing text, wherever it
occurs.
-/

namespace DdeTrayLoader.DBusMenu

open DdeTrayLoader.Lists

/-- `DBusMenuShortcut`. -/
abbrev DBusMenuShortcut : Type := List (List (List Char))

/-- A column of the table in `processKeyTokens`. -/
inductive KeyColumn
  | qt
  | dm
  deriving DecidableEq

/-- The table in `processKeyTokens`: the name in Qt and the name on the bus. -/
def keyTable : List (List Char × List Char) :=
  [(['M', 'e', 't', 'a'], ['S', 'u', 'p', 'e', 'r']),
    (['C', 't', 'r', 'l'], ['C', 'o', 'n', 't', 'r', 'o', 'l']),
    (['+'], ['p', 'l', 'u', 's']),
    (['-'], ['m', 'i', 'n', 'u', 's'])]

/-- A row's name in a column. -/
def KeyColumn.name : KeyColumn → List Char × List Char → List Char
  | .qt, row => row.1
  | .dm, row => row.2

/-- `processKeyTokens`, for one of the tokens. -/
def processKeyToken (srcCol dstCol : KeyColumn) (token : List Char) : List Char :=
  keyTable.foldl (fun token row => replaceAll (srcCol.name row) (dstCol.name row) token) token

def processKeyTokens (tokens : List (List Char)) (srcCol dstCol : KeyColumn) : List (List Char) :=
  tokens.map (processKeyToken srcCol dstCol)

/-- `fromKeySequence`, of the text of the sequence. -/
def DBusMenuShortcut.fromText (string : List Char) : DBusMenuShortcut :=
  (split [',', ' '] string).map fun token =>
    processKeyTokens (split ['+'] (replaceAll ['+', '+'] ['+', 'p', 'l', 'u', 's'] token)) .qt .dm

/-- The text that `toKeySequence` reads as a `QKeySequence`. -/
def DBusMenuShortcut.toText (shortcut : DBusMenuShortcut) : List Char :=
  [',', ' '].intercalate
    (shortcut.map fun keyTokens => ['+'].intercalate (processKeyTokens keyTokens .dm .qt))

/-! ## Names there and back -/

/-- The rows of the table other than that of `+`. -/
def letterTable : List (List Char × List Char) := keyTable.filter (·.1 ≠ ['+'])

/-- A bus name is in a token that came from the bus names only if it has been put there. -/
theorem not_infix_processKeyToken {name : List Char} (hname : name ∈ keyTable.map Prod.snd)
    (token : List Char) : ¬name <:+: processKeyToken .dm .qt token := by
  have hclear : ∀ name ∈ keyTable.map Prod.snd, name ≠ [] ∧ (∀ row ∈ keyTable.map Prod.swap,
      row.1 ≠ [] ∧ Clear name row.2 ∧ Clear row.2 name.tail) ∧
      ∃ row ∈ keyTable.map Prod.swap, name = row.1 := by decide
  obtain ⟨hne, hrows, row, hrow, heq⟩ := hclear name hname
  intro hin
  exact (infix_of_infix_replaceEach hne hrows hin).1 row hrow heq

/-- A token without `+`, and without the bus names other than `plus`, comes back with `+` for
`plus`. -/
theorem processKeyToken_processKeyToken {token : List Char} (hplus : '+' ∉ token)
    (htoken : ∀ row ∈ letterTable, ¬row.2 <:+: token) :
    processKeyToken .dm .qt (processKeyToken .qt .dm token) =
      replaceAll ['p', 'l', 'u', 's'] ['+'] token := by
  have hthere : processKeyToken .qt .dm token = replaceEach letterTable token := by
    have hnone : ¬['+'] <:+: replaceEach (keyTable.take 2) token := by
      intro hin
      obtain ⟨-, hbefore⟩ := infix_of_infix_replaceEach (by decide) (by decide) hin
      exact hplus (hbefore.subset (List.mem_singleton_self '+'))
    change replaceAll ['-'] ['m', 'i', 'n', 'u', 's']
      (replaceAll ['+'] ['p', 'l', 'u', 's'] (replaceEach (keyTable.take 2) token)) = _
    rw [replaceAll_eq_self hnone]
    rfl
  have hback (token : List Char) : processKeyToken .dm .qt token =
      replaceAll ['p', 'l', 'u', 's'] ['+'] (replaceEach (letterTable.map Prod.swap) token) :=
    replaceAll_comm (by decide) (by decide) (by decide) (by decide) (by decide) (by decide)
      (by decide) (by decide) _
  have hinvertible : Invertible letterTable := by decide
  rw [hthere, hback, hinvertible.replaceEach_swap htoken]

/-- The second `+` in a row is written as `plus` and read as `+`. -/
theorem replaceAll_plus {token : List Char} (htoken : ¬['p', 'l', 'u', 's'] <:+: token) :
    replaceAll ['p', 'l', 'u', 's'] ['+']
      (replaceAll ['+', '+'] ['+', 'p', 'l', 'u', 's'] token) = token := by
  have hfirst : Clear ['p', 'l', 'u', 's'] ['+'] := by decide
  have hinto : Clear ['+', 'p', 'l', 'u', 's'] ['l', 'u', 's'] := by decide
  have hdouble : ['+', '+'] ≠ [] := List.cons_ne_nil _ _
  have hplus : ['p', 'l', 'u', 's'] ≠ [] := List.cons_ne_nil _ _
  induction token using search_induction hdouble with
  | nil => rfl
  | found l ih =>
    rw [replaceAll_append hdouble]
    change replaceAll _ _ (['+'] ++ (['p', 'l', 'u', 's'] ++ _)) = _
    rw [hfirst.replaceAll_append, replaceAll_append hplus,
      ih fun hin => htoken (List.infix_append_of_infix_right hin)]
    rfl
  | other x l hnot ih =>
    have hno : ¬['p', 'l', 'u', 's'] <+:
        x :: replaceAll ['+', '+'] ['+', 'p', 'l', 'u', 's'] l := by
      intro hpre
      obtain ⟨rfl, htail⟩ := List.cons_prefix_cons.mp hpre
      have hhere : ['p', 'l', 'u', 's'] <+: 'p' :: l :=
        List.cons_prefix_cons.mpr ⟨rfl, prefix_of_prefix_replaceAll hdouble hinto htail⟩
      exact htoken hhere.isInfix
    rw [replaceAll_cons hnot, replaceAll_cons hno,
      ih fun hin => htoken (hin.trans (List.suffix_cons x l).isInfix)]

/-- What `toKeySequence` makes of what `fromKeySequence` makes of a combination. -/
def thereAndBack (token : List Char) : List Char :=
  ['+'].intercalate (processKeyTokens
    (processKeyTokens (split ['+'] (replaceAll ['+', '+'] ['+', 'p', 'l', 'u', 's'] token)) .qt .dm)
    .dm .qt)

theorem toText_fromText_eq (string : List Char) :
    (DBusMenuShortcut.fromText string).toText =
      [',', ' '].intercalate ((split [',', ' '] string).map thereAndBack) := by
  unfold DBusMenuShortcut.toText DBusMenuShortcut.fromText
  rw [List.map_map]
  rfl

/-- A combination without the bus names comes back. -/
theorem thereAndBack_eq {token : List Char} (htoken : ∀ row ∈ keyTable, ¬row.2 <:+: token) :
    thereAndBack token = token := by
  have hplus : ['p', 'l', 'u', 's'] ≠ [] := List.cons_ne_nil _ _
  have hpiece : ∀ piece ∈ split ['+'] (replaceAll ['+', '+'] ['+', 'p', 'l', 'u', 's'] token),
      processKeyToken .dm .qt (processKeyToken .qt .dm piece) =
        replaceAll ['p', 'l', 'u', 's'] ['+'] piece := by
    intro piece hmem
    refine processKeyToken_processKeyToken (notMem_of_mem_split hmem) fun row hrow hin => ?_
    have hclear : ∀ row ∈ letterTable, row ∈ keyTable ∧ row.2 ≠ [] ∧
        Clear row.2 ['+', 'p', 'l', 'u', 's'] ∧ Clear ['+', 'p', 'l', 'u', 's'] row.2.tail := by
      decide
    obtain ⟨hkey, hne, hstarts, hinto⟩ := hclear row hrow
    have hwhole := hin.trans (infix_of_mem_intercalate ['+'] hmem)
    rw [intercalate_split (List.cons_ne_nil _ _)] at hwhole
    exact htoken row hkey
      (infix_of_infix_replaceAll (List.cons_ne_nil _ _) hne hstarts hinto hwhole).2
  unfold thereAndBack processKeyTokens
  rw [List.map_map]
  change ['+'].intercalate (List.map (fun piece => processKeyToken .dm .qt
    (processKeyToken .qt .dm piece)) _) = token
  rw [List.map_congr_left hpiece, ← replaceAll_intercalate hplus (by decide),
    intercalate_split (List.cons_ne_nil _ _)]
  exact replaceAll_plus (htoken (['+'], ['p', 'l', 'u', 's']) (by decide))

/-- No separator has a letter of a bus name. -/
theorem names_apart {row : List Char × List Char} (hrow : row ∈ keyTable) :
    row.2 ≠ [] ∧ (∀ x ∈ row.2, x ∉ ['+']) ∧ ∀ x ∈ row.2, x ∉ [',', ' '] := by
  have hnames : ∀ row ∈ keyTable, row.2 ≠ [] ∧ '+' ∉ row.2 ∧ ',' ∉ row.2 ∧ ' ' ∉ row.2 := by
    decide
  obtain ⟨hne, hplus, hcomma, hblank⟩ := hnames row hrow
  refine ⟨hne, fun x hx hsep => ?_, fun x hx hsep => ?_⟩
  · obtain rfl := List.mem_singleton.mp hsep
    exact hplus hx
  · rcases List.mem_cons.mp hsep with rfl | hsep
    · exact hcomma hx
    · obtain rfl := List.mem_singleton.mp hsep
      exact hblank hx

/-- What comes back has none of the bus names. -/
theorem not_infix_thereAndBack {row : List Char × List Char} (hrow : row ∈ keyTable)
    (token : List Char) : ¬row.2 <:+: thereAndBack token := by
  obtain ⟨hne, hdisjoint, -⟩ := names_apart hrow
  intro hin
  obtain ⟨piece, hpiece, hinpiece⟩ :=
    exists_infix_of_infix_intercalate (List.cons_ne_nil _ _) hne hdisjoint hin
  obtain ⟨token', -, rfl⟩ := List.mem_map.mp hpiece
  exact not_infix_processKeyToken (List.mem_map_of_mem hrow) token' hinpiece

/-- The text of a key sequence is the same after a way over the bus exactly when none of the bus
names of keys occurs in it. -/
theorem toText_fromText_iff (string : List Char) :
    (DBusMenuShortcut.fromText string).toText = string ↔ ∀ row ∈ keyTable, ¬row.2 <:+: string := by
  have hsep : [',', ' '] ≠ [] := List.cons_ne_nil _ _
  rw [toText_fromText_eq]
  constructor
  · intro heq row hrow hin
    obtain ⟨hne, -, hdisjoint⟩ := names_apart hrow
    rw [← heq] at hin
    obtain ⟨piece, hpiece, hinpiece⟩ :=
      exists_infix_of_infix_intercalate hsep hne hdisjoint hin
    obtain ⟨token, -, rfl⟩ := List.mem_map.mp hpiece
    exact not_infix_thereAndBack hrow token hinpiece
  · intro hstring
    have htoken : ∀ token ∈ split [',', ' '] string, thereAndBack token = token := by
      intro token hmem
      refine thereAndBack_eq fun row hrow hin => hstring row hrow ?_
      have hwhole := hin.trans (infix_of_mem_intercalate [',', ' '] hmem)
      rwa [intercalate_split hsep] at hwhole
    rw [List.map_congr_left htoken, List.map_id', intercalate_split hsep]

/-- A `+` alone is two keys without a name on the bus. -/
example : DBusMenuShortcut.fromText ['+'] = [[[], []]] := by decide

end DdeTrayLoader.DBusMenu
