import Mathlib.Data.List.Infix
import Mathlib.Data.List.Basic

/-!
# Replacing every occurrence

`replaceAll p r` replaces the occurrences of a pattern in a list, from the left and without
overlaps, and `split sep` cuts a list at them. What a replacement does to the occurrences of
another pattern depends on where that pattern can start: `Clear b c` says that it does not start
within `c`.
-/

namespace DdeTrayLoader.Lists

variable {α : Type*}

/-! ## Occurrences of a pattern -/

/-- No occurrence of `b` starts within `c`, whatever comes after. -/
def Clear (b c : List α) : Prop := ∀ v ∈ c.tails, v ≠ [] → ¬v <+: b ∧ ¬b <+: v

theorem Clear.tail {b : List α} {x : α} {c : List α} (h : Clear b (x :: c)) : Clear b c := by
  intro v hv
  exact h v ((List.mem_tails _ _).mpr (((List.mem_tails _ _).mp hv).trans (List.suffix_cons x c)))

/-- No occurrence starts at the first entry. -/
theorem Clear.not_prefix {b : List α} {x : α} {c : List α} (h : Clear b (x :: c)) (l : List α) :
    ¬b <+: x :: (c ++ l) := by
  intro hpre
  obtain ⟨hshort, hlong⟩ :=
    h (x :: c) ((List.mem_tails _ _).mpr List.suffix_rfl) (List.cons_ne_nil x c)
  rcases List.prefix_or_prefix_of_prefix hpre (List.prefix_append (x :: c) l) with hb | hc
  · exact hlong hb
  · exact hshort hc

/-- An occurrence that does not start in the first part is in the second. -/
theorem Clear.infix_of_append {q c l : List α} (h : Clear q c) (hq : q <:+: c ++ l) :
    q <:+: l := by
  induction c with
  | nil => exact hq
  | cons x c ih =>
    rcases List.infix_cons_iff.mp hq with hpre | hin
    · exact absurd hpre (h.not_prefix l)
    · exact ih h.tail hin

/-- A pattern does not start among entries that it does not have. -/
theorem clear_of_disjoint {q c : List α} (hne : q ≠ []) (hq : ∀ x ∈ q, x ∉ c) : Clear q c := by
  intro v hv hvne
  have hsub := ((List.mem_tails v c).mp hv).subset
  obtain ⟨x, v, rfl⟩ := List.exists_cons_of_ne_nil hvne
  obtain ⟨y, q, rfl⟩ := List.exists_cons_of_ne_nil hne
  refine ⟨fun hpre => ?_, fun hpre => ?_⟩
  · exact hq x (hpre.subset List.mem_cons_self) (hsub List.mem_cons_self)
  · exact hq y List.mem_cons_self (hsub (hpre.subset List.mem_cons_self))

/-- An occurrence of a pattern is on one side of an entry that the pattern does not have. -/
theorem infix_or_infix_of_notMem {q l l' : List α} {x : α} (hne : q ≠ []) (hx : x ∉ q)
    (h : q <:+: l ++ x :: l') : q <:+: l ∨ q <:+: l' := by
  induction l with
  | nil =>
    refine .inr ((clear_of_disjoint hne (c := [x]) ?_).infix_of_append h)
    intro y hy hmem
    exact hx (List.mem_singleton.mp hmem ▸ hy)
  | cons y l ih =>
    rcases List.infix_cons_iff.mp h with hpre | hrest
    · rcases List.prefix_or_prefix_of_prefix hpre (List.prefix_append (y :: l) (x :: l')) with
        hin | ⟨w, rfl⟩
      · exact .inl hin.isInfix
      · have hw : w <+: x :: l' := (List.prefix_append_right_inj (y :: l)).mp hpre
        cases w with
        | nil => exact .inl (by rw [List.append_nil])
        | cons z w =>
          obtain rfl := (List.cons_prefix_cons.mp hw).1
          exact absurd (List.mem_append_right _ List.mem_cons_self) hx
    · exact (ih hrest).imp_left fun hl => hl.trans (List.suffix_cons y l).isInfix

/-- A pattern without entries of the separator occurs within a piece. -/
theorem exists_infix_of_infix_intercalate {sep q : List α} {pieces : List (List α)}
    (hsep : sep ≠ []) (hne : q ≠ []) (hq : ∀ x ∈ q, x ∉ sep)
    (h : q <:+: sep.intercalate pieces) : ∃ piece ∈ pieces, q <:+: piece := by
  induction pieces with
  | nil => exact absurd (List.infix_nil.mp h) hne
  | cons first rest ih =>
    cases rest with
    | nil =>
      rw [List.intercalate_singleton] at h
      exact ⟨first, List.mem_singleton_self first, h⟩
    | cons second rest =>
      obtain ⟨x, sep, rfl⟩ := List.exists_cons_of_ne_nil hsep
      rw [List.intercalate_cons_cons, List.append_assoc, List.cons_append] at h
      rcases infix_or_infix_of_notMem hne (fun hx => hq x hx List.mem_cons_self) h with
        hfirst | hrest
      · exact ⟨first, List.mem_cons_self, hfirst⟩
      · have hclear : Clear q sep :=
          clear_of_disjoint hne fun y hy hmem => hq y hy (List.mem_cons_of_mem x hmem)
        obtain ⟨piece, hpiece, hin⟩ := ih (hclear.infix_of_append hrest)
        exact ⟨piece, List.mem_cons_of_mem first hpiece, hin⟩

/-- A piece is a part of the list. -/
theorem infix_of_mem_intercalate (sep : List α) {piece : List α} {pieces : List (List α)}
    (h : piece ∈ pieces) : piece <:+: sep.intercalate pieces := by
  induction pieces with
  | nil => exact absurd h List.not_mem_nil
  | cons first rest ih =>
    cases rest with
    | nil =>
      rw [List.mem_singleton.mp h, List.intercalate_singleton]
    | cons second rest =>
      rw [List.intercalate_cons_cons]
      rcases List.mem_cons.mp h with rfl | hrest
      · exact List.infix_append_of_infix_left (List.prefix_append piece sep).isInfix
      · exact List.infix_append_of_infix_right (ih hrest)

/-! ## Replacing and splitting -/

variable [DecidableEq α]

instance (b c : List α) : Decidable (Clear b c) :=
  inferInstanceAs (Decidable (∀ v ∈ c.tails, v ≠ [] → ¬v <+: b ∧ ¬b <+: v))

/-- Replace the occurrences from here on, when the next `n` entries belong to one already
replaced. -/
def replaceFrom (p r : List α) : ℕ → List α → List α
  | _, [] => []
  | n + 1, _ :: l => replaceFrom p r n l
  | 0, x :: l =>
    if p.isPrefixOf (x :: l) then r ++ replaceFrom p r (p.length - 1) l
    else x :: replaceFrom p r 0 l

/-- Replace every occurrence of `p` by `r`. -/
def replaceAll (p r l : List α) : List α := replaceFrom p r 0 l

/-- Cut at the occurrences from here on, when the next `n` entries belong to one already found. -/
def splitFrom (sep : List α) : ℕ → List α → List (List α)
  | _, [] => [[]]
  | n + 1, _ :: l => splitFrom sep n l
  | 0, x :: l =>
    if sep.isPrefixOf (x :: l) then [] :: splitFrom sep (sep.length - 1) l
    else (splitFrom sep 0 l).modifyHead (x :: ·)

/-- The pieces of a list between the occurrences of `sep`. -/
def split (sep l : List α) : List (List α) := splitFrom sep 0 l

/-! ## One step -/

theorem replaceFrom_append (p r l l' : List α) :
    replaceFrom p r l.length (l ++ l') = replaceAll p r l' := by
  induction l with
  | nil => cases l' with | nil => rfl | cons => rfl
  | cons x l ih => exact ih

theorem splitFrom_append (sep l l' : List α) :
    splitFrom sep l.length (l ++ l') = split sep l' := by
  induction l with
  | nil => cases l' with | nil => rfl | cons => rfl
  | cons x l ih => exact ih

/-- An occurrence at the start is replaced. -/
theorem replaceAll_append {p : List α} (hp : p ≠ []) (r l : List α) :
    replaceAll p r (p ++ l) = r ++ replaceAll p r l := by
  obtain ⟨x, p, rfl⟩ := List.exists_cons_of_ne_nil hp
  have hpre : (x :: p).isPrefixOf (x :: (p ++ l)) = true :=
    List.isPrefixOf_iff_prefix.mpr (List.prefix_append (x :: p) l)
  rw [List.cons_append, replaceAll, replaceFrom, if_pos hpre]
  congr 1
  exact replaceFrom_append (x :: p) r p l

/-- Without an occurrence at the start, the first entry stays. -/
theorem replaceAll_cons {p : List α} {x : α} {l : List α} (h : ¬p <+: x :: l) (r : List α) :
    replaceAll p r (x :: l) = x :: replaceAll p r l := by
  rw [replaceAll, replaceFrom, if_neg (mt List.isPrefixOf_iff_prefix.mp h)]
  rfl

theorem split_append {sep : List α} (hsep : sep ≠ []) (l : List α) :
    split sep (sep ++ l) = [] :: split sep l := by
  obtain ⟨x, sep, rfl⟩ := List.exists_cons_of_ne_nil hsep
  have hpre : (x :: sep).isPrefixOf (x :: (sep ++ l)) = true :=
    List.isPrefixOf_iff_prefix.mpr (List.prefix_append (x :: sep) l)
  rw [List.cons_append, split, splitFrom, if_pos hpre]
  congr 1
  exact splitFrom_append (x :: sep) sep l

theorem split_cons {sep : List α} {x : α} {l : List α} (h : ¬sep <+: x :: l) :
    split sep (x :: l) = (split sep l).modifyHead (x :: ·) := by
  rw [split, splitFrom, if_neg (mt List.isPrefixOf_iff_prefix.mp h)]
  rfl

/-- Induction along the search for a pattern: a list starts with an occurrence, or with an entry
where none starts. -/
@[elab_as_elim]
theorem search_induction {p : List α} (hp : p ≠ []) {motive : List α → Prop} (nil : motive [])
    (found : ∀ l, motive l → motive (p ++ l))
    (other : ∀ x l, ¬p <+: x :: l → motive l → motive (x :: l)) (l : List α) : motive l := by
  induction hlen : l.length using Nat.strong_induction_on generalizing l with
  | _ n ih =>
    cases l with
    | nil => exact nil
    | cons x l =>
      by_cases hpre : p <+: x :: l
      · obtain ⟨l', hl'⟩ := hpre
        rw [← hl']
        refine found l' (ih l'.length ?_ l' rfl)
        have hpos := List.length_pos_iff.mpr hp
        have hsum := congrArg List.length hl'
        rw [List.length_append] at hsum
        omega
      · refine other x l hpre (ih l.length ?_ l rfl)
        rw [← hlen, List.length_cons]
        exact Nat.lt_succ_self _

/-! ## Occurrences of other patterns -/

/-- What no occurrence starts in is copied. -/
theorem Clear.replaceAll_append {p c : List α} (h : Clear p c) (r l : List α) :
    replaceAll p r (c ++ l) = c ++ replaceAll p r l := by
  induction c with
  | nil => rfl
  | cons x c ih =>
    rw [List.cons_append, replaceAll_cons (h.not_prefix l), ih h.tail, List.cons_append]

section
variable {p : List α} (hp : p ≠ []) {r : List α}
include hp

/-- What a list starts with after a replacement it started with before, when the replacement can
have no part in it. -/
theorem prefix_of_prefix_replaceAll {w l : List α} (hw : Clear r w)
    (hpre : w <+: replaceAll p r l) : w <+: l := by
  induction l using search_induction hp generalizing w with
  | nil => exact hpre
  | found l _ =>
    cases w with
    | nil => exact List.nil_prefix
    | cons y w =>
      rw [replaceAll_append hp] at hpre
      obtain ⟨hshort, hlong⟩ :=
        hw (y :: w) ((List.mem_tails _ _).mpr List.suffix_rfl) (List.cons_ne_nil y w)
      rcases List.prefix_or_prefix_of_prefix hpre (List.prefix_append r _) with hin | hout
      · exact absurd hin hshort
      · exact absurd hout hlong
  | other x l hnot ih =>
    cases w with
    | nil => exact List.nil_prefix
    | cons y w =>
      rw [replaceAll_cons hnot, List.cons_prefix_cons] at hpre
      exact List.cons_prefix_cons.mpr ⟨hpre.1, ih hw.tail hpre.2⟩

/-- A replacement makes no occurrence of a pattern that can neither start in the replacement nor
run into it, and leaves none of its own. -/
theorem infix_of_infix_replaceAll {q l : List α} (hne : q ≠ []) (hin : Clear q r)
    (hinto : Clear r q.tail) (hq : q <:+: replaceAll p r l) : q ≠ p ∧ q <:+: l := by
  obtain ⟨x, q, rfl⟩ := List.exists_cons_of_ne_nil hne
  induction l using search_induction hp with
  | nil => exact absurd (List.infix_nil.mp hq) (List.cons_ne_nil x q)
  | found l ih =>
    rw [replaceAll_append hp] at hq
    obtain ⟨hne, hl⟩ := ih (hin.infix_of_append hq)
    exact ⟨hne, List.infix_append_of_infix_right hl⟩
  | other y l hnot ih =>
    rw [replaceAll_cons hnot] at hq
    rcases List.infix_cons_iff.mp hq with hpre | hrest
    · obtain ⟨rfl, htail⟩ := List.cons_prefix_cons.mp hpre
      have hhere : x :: q <+: x :: l :=
        List.cons_prefix_cons.mpr ⟨rfl, prefix_of_prefix_replaceAll hp hinto htail⟩
      refine ⟨?_, hhere.isInfix⟩
      rintro rfl
      exact hnot hhere
    · obtain ⟨hne, hl⟩ := ih hrest
      exact ⟨hne, hl.trans (List.suffix_cons y l).isInfix⟩

omit hp in
theorem replaceAll_eq_self {l : List α} (h : ¬p <:+: l) : replaceAll p r l = l := by
  induction l with
  | nil => rfl
  | cons x l ih =>
    rw [replaceAll_cons fun hpre => h hpre.isInfix,
      ih fun hin => h (hin.trans (List.suffix_cons x l).isInfix)]

/-- A replacement is undone by the opposite one, when what it puts in was not there and cannot
overlap with itself. -/
theorem replaceAll_replaceAll {l : List α} (hr : r ≠ []) (hself : Clear r r.tail)
    (hl : ¬r <:+: l) : replaceAll r p (replaceAll p r l) = l := by
  obtain ⟨x, r, rfl⟩ := List.exists_cons_of_ne_nil hr
  induction l using search_induction hp with
  | nil => rfl
  | found l ih =>
    rw [replaceAll_append hp, replaceAll_append (List.cons_ne_nil x r),
      ih fun hin => hl (List.infix_append_of_infix_right hin)]
  | other y l hnot ih =>
    have hno : ¬x :: r <+: y :: replaceAll p (x :: r) l := by
      intro hpre
      obtain ⟨rfl, htail⟩ := List.cons_prefix_cons.mp hpre
      have hhere : x :: r <+: x :: l :=
        List.cons_prefix_cons.mpr ⟨rfl, prefix_of_prefix_replaceAll hp hself htail⟩
      exact hl hhere.isInfix
    rw [replaceAll_cons hnot, replaceAll_cons hno,
      ih fun hin => hl (hin.trans (List.suffix_cons y l).isInfix)]

end

/-- Replacements of patterns that are clear of each other can be made in either order. -/
theorem replaceAll_comm {p r q s : List α} (hp : p ≠ []) (hq : q ≠ []) (hpq : Clear p q)
    (hqp : Clear q p) (hps : Clear p s) (hqr : Clear q r) (hsp : Clear s p.tail)
    (hrq : Clear r q.tail) (l : List α) :
    replaceAll p r (replaceAll q s l) = replaceAll q s (replaceAll p r l) := by
  induction hlen : l.length using Nat.strong_induction_on generalizing l with
  | _ n ih =>
    have hrest {l' c : List α} (hc : c ≠ []) (heq : c ++ l' = l) : l'.length < n := by
      have hpos := List.length_pos_iff.mpr hc
      have hsum := congrArg List.length heq
      rw [List.length_append] at hsum
      omega
    by_cases hpre : p <+: l
    · obtain ⟨l', rfl⟩ := hpre
      rw [hqp.replaceAll_append, replaceAll_append hp, replaceAll_append hp,
        hqr.replaceAll_append, ih _ (hrest hp rfl) l' rfl]
    by_cases hpre' : q <+: l
    · obtain ⟨l', rfl⟩ := hpre'
      rw [hpq.replaceAll_append, replaceAll_append hq, replaceAll_append hq,
        hps.replaceAll_append, ih _ (hrest hq rfl) l' rfl]
    -- Neither starts here, before the other replacement or after it.
    obtain ⟨x, p, rfl⟩ := List.exists_cons_of_ne_nil hp
    obtain ⟨y, q, rfl⟩ := List.exists_cons_of_ne_nil hq
    cases l with
    | nil => rfl
    | cons z l =>
      have hnot : ¬x :: p <+: z :: replaceAll (y :: q) s l := by
        intro hafter
        obtain ⟨rfl, htail⟩ := List.cons_prefix_cons.mp hafter
        exact hpre (List.cons_prefix_cons.mpr ⟨rfl, prefix_of_prefix_replaceAll hq hsp htail⟩)
      have hnot' : ¬y :: q <+: z :: replaceAll (x :: p) r l := by
        intro hafter
        obtain ⟨rfl, htail⟩ := List.cons_prefix_cons.mp hafter
        exact hpre' (List.cons_prefix_cons.mpr ⟨rfl, prefix_of_prefix_replaceAll hp hrq htail⟩)
      rw [replaceAll_cons hpre', replaceAll_cons hnot, replaceAll_cons hpre,
        replaceAll_cons hnot', ih _ (hrest (List.cons_ne_nil z []) rfl) l rfl]

/-- A replacement is made on each side of an entry that the pattern does not have. -/
theorem replaceAll_append_cons {p : List α} (hp : p ≠ []) {x : α} (hx : x ∉ p) (r l l' : List α) :
    replaceAll p r (l ++ x :: l') = replaceAll p r l ++ x :: replaceAll p r l' := by
  have hsep : Clear p [x] :=
    clear_of_disjoint hp fun y hy hmem => hx (List.mem_singleton.mp hmem ▸ hy)
  induction l using search_induction hp with
  | nil => exact hsep.replaceAll_append r l'
  | found l ih =>
    rw [List.append_assoc, replaceAll_append hp, ih, replaceAll_append hp, List.append_assoc]
  | other y l hnot ih =>
    have hno : ¬p <+: y :: (l ++ x :: l') := by
      intro hpre
      rcases List.prefix_or_prefix_of_prefix hpre (List.prefix_append (y :: l) (x :: l')) with
        hin | ⟨w, rfl⟩
      · exact hnot hin
      · have hw : w <+: x :: l' := (List.prefix_append_right_inj (y :: l)).mp hpre
        cases w with
        | nil => exact hnot (by rw [List.append_nil])
        | cons z w =>
          obtain rfl := (List.cons_prefix_cons.mp hw).1
          exact hx (List.mem_append_right _ List.mem_cons_self)
    rw [List.cons_append, replaceAll_cons hno, ih, replaceAll_cons hnot, List.cons_append]

/-- A replacement is made in each of the pieces that an entry separates. -/
theorem replaceAll_intercalate {p : List α} (hp : p ≠ []) {x : α} (hx : x ∉ p) (r : List α)
    (pieces : List (List α)) :
    replaceAll p r ([x].intercalate pieces) = [x].intercalate (pieces.map (replaceAll p r)) := by
  induction pieces with
  | nil => rfl
  | cons first rest ih =>
    cases rest with
    | nil =>
      rw [List.map_cons, List.map_nil, List.intercalate_singleton, List.intercalate_singleton]
    | cons second rest =>
      rw [List.map_cons, List.map_cons, List.intercalate_cons_cons, List.intercalate_cons_cons,
        List.append_assoc, List.append_assoc, List.singleton_append,
        replaceAll_append_cons hp hx, ih, List.singleton_append, List.map_cons]

/-! ## Several replacements -/

/-- Make the replacements of a table, one after the other. -/
def replaceEach (table : List (List α × List α)) (l : List α) : List α :=
  table.foldl (fun l row => replaceAll row.1 row.2 l) l

/-- A pattern that no row can make is left only where it was, and not at all when it is the
pattern of a row. -/
theorem infix_of_infix_replaceEach {table : List (List α × List α)} {q l : List α} (hne : q ≠ [])
    (hclear : ∀ row ∈ table, row.1 ≠ [] ∧ Clear q row.2 ∧ Clear row.2 q.tail)
    (hq : q <:+: replaceEach table l) : (∀ row ∈ table, q ≠ row.1) ∧ q <:+: l := by
  induction table generalizing l with
  | nil => exact ⟨fun _ h => absurd h List.not_mem_nil, hq⟩
  | cons row table ih =>
    obtain ⟨hrow, hin, hinto⟩ := hclear row List.mem_cons_self
    obtain ⟨hrest, hfirst⟩ := ih (fun row' h => hclear row' (List.mem_cons_of_mem row h)) hq
    obtain ⟨hrowne, hl⟩ := infix_of_infix_replaceAll hrow hne hin hinto hfirst
    refine ⟨fun row' h => ?_, hl⟩
    rcases List.mem_cons.mp h with rfl | h
    · exact hrowne
    · exact hrest row' h

/-- The replacement of a row backwards and that of another row forwards can change places. -/
def Apart (a b : List α × List α) : Prop :=
  Clear a.2 b.1 ∧ Clear b.1 a.2 ∧ Clear a.2 b.2 ∧ Clear b.1 a.1 ∧ Clear b.2 a.2.tail ∧
    Clear a.1 b.1.tail

instance (a b : List α × List α) : Decidable (Apart a b) := inferInstanceAs (Decidable (_ ∧ _))

/-- The rows of a table are apart from each other, and what a row puts in does not overlap with
itself. -/
def Invertible (table : List (List α × List α)) : Prop :=
  table.Pairwise Apart ∧ ∀ row ∈ table, row.1 ≠ [] ∧ row.2 ≠ [] ∧ Clear row.2 row.2.tail

instance (table : List (List α × List α)) : Decidable (Invertible table) :=
  inferInstanceAs (Decidable (_ ∧ _))

/-- One replacement passes those of the rows it is apart from. -/
theorem replaceAll_replaceEach {row : List α × List α} {table : List (List α × List α)}
    (hrow : row.2 ≠ []) (htable : ∀ row' ∈ table, row'.1 ≠ [] ∧ Apart row row') (l : List α) :
    replaceAll row.2 row.1 (replaceEach table l) =
      replaceEach table (replaceAll row.2 row.1 l) := by
  induction table generalizing l with
  | nil => rfl
  | cons row' table ih =>
    obtain ⟨hne, h₁, h₂, h₃, h₄, h₅, h₆⟩ := htable row' List.mem_cons_self
    have hpass := ih (fun row'' h => htable row'' (List.mem_cons_of_mem row' h))
      (replaceAll row'.1 row'.2 l)
    rw [replaceAll_comm hrow hne h₁ h₂ h₃ h₄ h₅ h₆] at hpass
    exact hpass

/-- The replacements of a table are undone by those the other way, when nothing that they put in
was there. -/
theorem Invertible.replaceEach_swap {table : List (List α × List α)} (htable : Invertible table)
    {l : List α} (hl : ∀ row ∈ table, ¬row.2 <:+: l) :
    replaceEach (table.map Prod.swap) (replaceEach table l) = l := by
  obtain ⟨hapart, hrows⟩ := htable
  induction table generalizing l with
  | nil => rfl
  | cons row table ih =>
    obtain ⟨hpattern, hputs, hself⟩ := hrows row List.mem_cons_self
    have hrest : ∀ row' ∈ table, row'.1 ≠ [] ∧ Apart row row' := fun row' h =>
      ⟨(hrows row' (List.mem_cons_of_mem row h)).1, List.rel_of_pairwise_cons hapart h⟩
    change replaceEach (table.map Prod.swap) (replaceAll row.2 row.1
      (replaceEach table (replaceAll row.1 row.2 l))) = l
    rw [replaceAll_replaceEach hputs hrest,
      replaceAll_replaceAll hpattern hputs hself (hl row List.mem_cons_self)]
    exact ih (fun row' h => hl row' (List.mem_cons_of_mem row h)) hapart.of_cons
      fun row' h => hrows row' (List.mem_cons_of_mem row h)

/-! ## Splitting and joining -/

theorem split_ne_nil (sep l : List α) : split sep l ≠ [] := by
  induction l with
  | nil => exact List.cons_ne_nil _ _
  | cons x l ih =>
    by_cases hpre : sep <+: x :: l
    · rw [split, splitFrom, if_pos (List.isPrefixOf_iff_prefix.mpr hpre)]
      exact List.cons_ne_nil _ _
    · rw [split_cons hpre]
      obtain ⟨piece, pieces, heq⟩ := List.exists_cons_of_ne_nil ih
      rw [heq]
      exact List.cons_ne_nil _ _

/-- The pieces, joined again, are the list. -/
theorem intercalate_split {sep : List α} (hsep : sep ≠ []) (l : List α) :
    sep.intercalate (split sep l) = l := by
  induction l using search_induction hsep with
  | nil => rfl
  | found l ih =>
    rw [split_append hsep, List.intercalate_cons_of_ne_nil (split_ne_nil sep l), ih,
      List.nil_append]
  | other x l hnot ih =>
    rw [split_cons hnot]
    obtain ⟨piece, pieces, heq⟩ := List.exists_cons_of_ne_nil (split_ne_nil sep l)
    rw [heq] at ih ⊢
    rw [List.modifyHead_cons, List.intercalate_cons_cons_left, ih]

/-- The pieces between the occurrences of one entry do not have it. -/
theorem notMem_of_mem_split {x : α} {piece l : List α} (h : piece ∈ split [x] l) : x ∉ piece := by
  induction l using search_induction (List.cons_ne_nil x []) generalizing piece with
  | nil =>
    rw [List.mem_singleton.mp h]
    exact List.not_mem_nil
  | found l ih =>
    rw [split_append (List.cons_ne_nil x [])] at h
    rcases List.mem_cons.mp h with rfl | hrest
    · exact List.not_mem_nil
    · exact ih hrest
  | other y l hnot ih =>
    obtain ⟨first, rest, heq⟩ := List.exists_cons_of_ne_nil (split_ne_nil [x] l)
    rw [heq] at ih
    rw [split_cons hnot, heq, List.modifyHead_cons] at h
    rcases List.mem_cons.mp h with rfl | hrest
    · rw [List.mem_cons, not_or]
      refine ⟨?_, ih List.mem_cons_self⟩
      rintro rfl
      exact hnot (List.cons_prefix_cons.mpr ⟨rfl, List.nil_prefix⟩)
    · exact ih (List.mem_cons_of_mem first hrest)

end DdeTrayLoader.Lists
