import CatalogBrowser.Resource.Basic
import Mathlib.Data.List.Infix
import Mathlib.Logic.Function.Basic

/-!
# A path can be read off its id

Everything the browser remembers about an entry is kept under the entry's
id, so two paths must never share one. This module shows that they do not,
and that the ids below an entry are those that go on with a dot behind its
id.

Both follow from one fact: the writing of a segment says where it ends
(`Path.segmentChars_append_cancel`). A plain segment ends at the first dot.
A quoted one ends at the first quote that stands alone, and dots before
that belong to the segment; since every quote inside is written twice, the
closing one is the only quote that no other quote follows.

A path behind its first segment is written by `Path.tailChars`, one dot and
one segment after another. It is empty or begins with a dot, which is all a
segment needs to find behind it (`Path.Stops`).
-/

namespace CatalogBrowser

namespace Path

/-- What may stand behind a segment: nothing, or a dot and something more. -/
def Stops (rest : List Char) : Prop := ∀ c ∈ rest.head?, c = '.'

/-- Where a segment has stopped and something is left, it goes on with a dot. -/
theorem Stops.of_cons {c : Char} {cs : List Char} (h : Stops (c :: cs)) : c = '.' :=
  h c rfl

/-- A segment stops at the end of the id. -/
theorem stops_nil : Stops [] := fun _ h => nomatch h

/-- And it stops at a dot, which is not part of a plain segment. -/
theorem stops_dot (cs : List Char) : Stops ('.' :: cs) := by
  intro c hc
  exact (Option.some.inj hc).symm

/-! ## One segment -/

/-- A plain segment has a first letter, so nothing at all is no plain segment. It is
written as two quotes. -/
theorem ne_nil_of_isPlain {cs : List Char} (h : isPlain cs = true) : cs ≠ [] := by
  rintro rfl
  simp [isPlain] at h

/-- A plain segment has neither dots nor quotes. -/
theorem ne_of_mem_plain {cs : List Char} (h : isPlain cs = true) {c : Char} (hc : c ∈ cs) :
    c ≠ '.' ∧ c ≠ '"' := by
  cases cs with
  | nil => exact absurd hc List.not_mem_nil
  | cons d ds =>
    simp only [isPlain, Bool.and_eq_true, List.all_eq_true] at h
    have hplain := h.2 c hc
    constructor
    · rintro rfl
      exact absurd hplain (by decide)
    · rintro rfl
      exact absurd hplain (by decide)

/-- **The writing of a segment is not empty**, not even that of the empty one. -/
theorem segmentChars_ne_nil (segment : List Char) : segmentChars segment ≠ [] := by
  unfold segmentChars
  split
  · next h => exact ne_nil_of_isPlain h
  · exact List.cons_ne_nil _ _

/-- Two texts without dots, each followed by what may stand behind a segment,
end at the same place. -/
theorem append_cancel_of_no_dot {a b x y : List Char} (ha : ∀ c ∈ a, c ≠ '.')
    (hb : ∀ c ∈ b, c ≠ '.') (hx : Stops x) (hy : Stops y) (h : a ++ x = b ++ y) :
    a = b ∧ x = y := by
  induction a generalizing b with
  | nil =>
    cases b with
    | nil => exact ⟨rfl, h⟩
    | cons d ds =>
      simp only [List.nil_append, List.cons_append] at h
      subst h
      exact absurd hx.of_cons (hb d List.mem_cons_self)
  | cons c cs ih =>
    cases b with
    | nil =>
      simp only [List.nil_append, List.cons_append] at h
      subst h
      exact absurd hy.of_cons (ha c List.mem_cons_self)
    | cons d ds =>
      simp only [List.cons_append, List.cons.injEq] at h
      obtain ⟨rfl, h⟩ := h
      obtain ⟨rfl, hxy⟩ := ih (fun e he => ha e (List.mem_cons_of_mem _ he))
        (fun e he => hb e (List.mem_cons_of_mem _ he)) h
      exact ⟨rfl, hxy⟩

@[simp]
theorem doubleQuotes_nil : doubleQuotes [] = [] := rfl

@[simp]
theorem doubleQuotes_quote (cs : List Char) :
    doubleQuotes ('"' :: cs) = '"' :: '"' :: doubleQuotes cs := rfl

/-- Only quotes are doubled. -/
theorem doubleQuotes_of_ne {c : Char} (hc : c ≠ '"') (cs : List Char) :
    doubleQuotes (c :: cs) = c :: doubleQuotes cs := by
  rw [doubleQuotes, if_neg hc]

/-- A closing quote is not the first of two. -/
theorem Stops.cons_ne_quote {x : List Char} (hx : Stops x) (y : List Char) : x ≠ '"' :: y := by
  rintro rfl
  exact absurd hx.of_cons (by decide)

/-- No text goes on where another one is closed. -/
theorem close_ne_doubleQuotes_cons {x : List Char} (hx : Stops x) (c : Char)
    (cs y : List Char) : '"' :: x ≠ doubleQuotes (c :: cs) ++ y := by
  intro h
  by_cases hc : c = '"'
  · subst hc
    rw [doubleQuotes_quote, List.cons_append, List.cons.injEq, List.cons_append] at h
    exact hx.cons_ne_quote _ h.2
  · rw [doubleQuotes_of_ne hc, List.cons_append, List.cons.injEq] at h
    exact hc h.1.symm

/-- **The closing quote is the first that stands alone.** -/
theorem doubleQuotes_append_cancel {a b x y : List Char} (hx : Stops x) (hy : Stops y)
    (h : doubleQuotes a ++ '"' :: x = doubleQuotes b ++ '"' :: y) : a = b ∧ x = y := by
  induction a generalizing b with
  | nil =>
    cases b with
    | nil =>
      rw [doubleQuotes_nil, List.nil_append, List.nil_append, List.cons.injEq] at h
      exact ⟨rfl, h.2⟩
    | cons d ds => exact absurd h (close_ne_doubleQuotes_cons hx d ds _)
  | cons c cs ih =>
    cases b with
    | nil => exact absurd h.symm (close_ne_doubleQuotes_cons hy c cs _)
    | cons d ds =>
      -- The first characters agree, and with them whether they are doubled.
      by_cases hc : c = '"' <;> by_cases hd : d = '"'
      · subst hc hd
        simp only [doubleQuotes_quote, List.cons_append, List.cons.injEq, true_and] at h
        obtain ⟨rfl, hxy⟩ := ih h
        exact ⟨rfl, hxy⟩
      · subst hc
        simp only [doubleQuotes_quote, doubleQuotes_of_ne hd, List.cons_append,
          List.cons.injEq] at h
        exact absurd h.1.symm hd
      · subst hd
        simp only [doubleQuotes_quote, doubleQuotes_of_ne hc, List.cons_append,
          List.cons.injEq] at h
        exact absurd h.1 hc
      · simp only [doubleQuotes_of_ne hc, doubleQuotes_of_ne hd, List.cons_append,
          List.cons.injEq] at h
        obtain ⟨rfl, h⟩ := h
        obtain ⟨rfl, hxy⟩ := ih h
        exact ⟨rfl, hxy⟩

/-- A plain segment and a quoted one differ in their first characters. -/
theorem plain_append_ne_quoted {a : List Char} (ha : isPlain a = true) (x y : List Char) :
    a ++ x ≠ '"' :: y := by
  cases a with
  | nil => exact absurd rfl (ne_nil_of_isPlain ha)
  | cons c cs =>
    intro h
    rw [List.cons_append, List.cons.injEq] at h
    exact (ne_of_mem_plain ha List.mem_cons_self).2 h.1

/-- **The writing of a segment says where it ends.** -/
theorem segmentChars_append_cancel {a b x y : List Char} (hx : Stops x) (hy : Stops y)
    (h : segmentChars a ++ x = segmentChars b ++ y) : a = b ∧ x = y := by
  by_cases ha : isPlain a = true <;> by_cases hb : isPlain b = true
  · simp only [segmentChars, ha, hb, if_true] at h
    exact append_cancel_of_no_dot (fun c hc => (ne_of_mem_plain ha hc).1)
      (fun c hc => (ne_of_mem_plain hb hc).1) hx hy h
  · simp only [segmentChars, ha, hb, if_true, if_false, Bool.false_eq_true,
      List.cons_append] at h
    exact absurd h (plain_append_ne_quoted ha _ _)
  · simp only [segmentChars, ha, hb, if_true, if_false, Bool.false_eq_true,
      List.cons_append] at h
    exact absurd h.symm (plain_append_ne_quoted hb _ _)
  · simp only [segmentChars, ha, hb, if_false, Bool.false_eq_true, List.cons_append,
      List.append_assoc, List.cons.injEq, true_and, List.nil_append] at h
    exact doubleQuotes_append_cancel hx hy h

/-! ## A whole path -/

/-- What the segments behind the first add to an id. -/
def tailChars (path : List String) : List Char :=
  path.flatMap fun segment => '.' :: segmentChars segment.toList

@[simp]
theorem tailChars_nil : tailChars [] = [] := rfl

@[simp]
theorem tailChars_cons (segment : String) (path : List String) :
    tailChars (segment :: path) = '.' :: (segmentChars segment.toList ++ tailChars path) := by
  simp [tailChars]

/-- What follows a segment begins with a dot, or is nothing. So any segment has stopped
there. -/
theorem stops_tailChars (path : List String) : Stops (tailChars path) := by
  cases path with
  | nil => exact stops_nil
  | cons segment path =>
    rw [tailChars_cons]
    exact stops_dot _

/-- There is nothing behind a segment just if it is the last one. -/
theorem tailChars_eq_nil {path : List String} : tailChars path = [] ↔ path = [] := by
  cases path <;> simp

@[simp]
theorem chars_nil : chars [] = [] := rfl

/-- An id is the writing of the first segment and what the others add. -/
@[simp]
theorem chars_cons (segment : String) (path : List String) :
    chars (segment :: path) = segmentChars segment.toList ++ tailChars path := by
  induction path generalizing segment with
  | nil => simp [chars, List.intercalate_singleton]
  | cons next path ih =>
    have hnext := ih next
    simp only [chars, List.map_cons] at hnext ⊢
    rw [List.intercalate_cons_cons, hnext, tailChars_cons]
    simp

/-- **An id is extended by a dot and more segments.** An empty path has no id to extend, so
it is left out. -/
theorem chars_append {p : List String} (hp : p ≠ []) (q : List String) :
    chars (p ++ q) = chars p ++ tailChars q := by
  obtain ⟨segment, p, rfl⟩ := List.exists_cons_of_ne_nil hp
  simp [tailChars, List.append_assoc]

/-- **What goes on behind an id is what further segments add.** -/
theorem exists_append_of_tailChars {p q : List String} {x : List Char} (hx : Stops x)
    (h : tailChars p ++ x = tailChars q) : ∃ r, q = p ++ r ∧ x = tailChars r := by
  induction p generalizing q with
  | nil => exact ⟨q, rfl, by simpa using h⟩
  | cons s p ih =>
    cases q with
    | nil => simp at h
    | cons t q =>
      rw [tailChars_cons, tailChars_cons, List.cons_append, List.cons.injEq,
        List.append_assoc] at h
      have hstops : Stops (tailChars p ++ x) := by
        cases p with
        | nil => simpa using hx
        | cons => simpa using stops_dot _
      obtain ⟨hst, hrest⟩ := segmentChars_append_cancel hstops (stops_tailChars q) h.2
      obtain ⟨r, rfl, hr⟩ := ih hrest
      exact ⟨r, by rw [String.toList_inj.1 hst, List.cons_append], hr⟩

/-- **An id that another goes on from is the id of a path the other goes on
from.** -/
theorem exists_append_of_chars {p q : List String} (hp : p ≠ []) {x : List Char} (hx : Stops x)
    (h : chars p ++ x = chars q) : ∃ r, q = p ++ r ∧ x = tailChars r := by
  obtain ⟨s, p, rfl⟩ := List.exists_cons_of_ne_nil hp
  cases q with
  | nil =>
    simp only [chars_cons, chars_nil, List.append_eq_nil_iff] at h
    exact absurd h.1.1 (segmentChars_ne_nil _)
  | cons t q =>
    -- A dot in front of both makes them the tails of two paths.
    refine exists_append_of_tailChars hx ?_
    rw [tailChars_cons, tailChars_cons, List.cons_append]
    simpa using h

/-- **Two paths with the same id are the same path.** -/
theorem id_injective : Function.Injective Path.id := by
  intro p q h
  have hchars : chars p = chars q := String.ofList_injective h
  by_cases hp : p = []
  · subst hp
    cases q with
    | nil => rfl
    | cons t q =>
      simp only [chars_nil, chars_cons, List.nil_eq, List.append_eq_nil_iff] at hchars
      exact absurd hchars.1 (segmentChars_ne_nil _)
  · obtain ⟨r, rfl, hr⟩ := exists_append_of_chars hp stops_nil (by simpa using hchars)
    rw [tailChars_eq_nil.1 hr.symm, List.append_nil]

@[simp]
theorem id_inj {p q : List String} : Path.id p = Path.id q ↔ p = q := id_injective.eq_iff

/-- **Only the empty path has the empty id.** -/
theorem id_eq_empty_iff {p : List String} : Path.id p = "" ↔ p = [] :=
  id_injective.eq_iff' rfl

/-- **The ids below a path go on with a dot behind its id**, and no others do. -/
theorem dot_prefix_id_iff {p q : List String} (hp : p ≠ []) :
    (Path.id p ++ ".").toList <+: (Path.id q).toList ↔ p <+: q ∧ p ≠ q := by
  have htext : (Path.id p ++ ".").toList = chars p ++ ['.'] := by
    simp [Path.id]
  rw [htext, Path.id, String.toList_ofList]
  constructor
  · rintro ⟨rest, hrest⟩
    rw [List.append_assoc] at hrest
    obtain ⟨r, rfl, hr⟩ := exists_append_of_chars hp (stops_dot rest) hrest
    refine ⟨List.prefix_append _ _, fun heq => ?_⟩
    rw [List.self_eq_append_right.1 heq] at hr
    exact absurd hr (List.cons_ne_nil _ _)
  · rintro ⟨⟨r, rfl⟩, hne⟩
    cases r with
    | nil => exact absurd (List.append_nil p).symm hne
    | cons s r =>
      rw [chars_append hp, tailChars_cons]
      exact ⟨segmentChars s.toList ++ tailChars r, by simp⟩

/-- **Ids are unambiguous.** No two paths have the same id, an id goes on from
another with a dot just if its path goes on from the other's, and two
resources share an id just if they share their path. -/
theorem id_unambiguous :
    (∀ p q : List String, Path.id p = Path.id q → p = q) ∧
    (∀ p q : List String, p ≠ [] →
      ((Path.id p ++ ".").toList <+: (Path.id q).toList ↔ p <+: q ∧ p ≠ q)) ∧
    (∀ r s : Resource, r.id = s.id ↔ r.path = s.path) := by
  refine ⟨?_, ?_, ?_⟩
  · intro p q h
    exact id_injective h
  · intro p q hp
    exact dot_prefix_id_iff hp
  · intro r s
    show Path.id r.path = Path.id s.path ↔ r.path = s.path
    exact id_inj

/-- A dot within a segment does not pass for a dot between two. -/
theorem id_unambiguous_dotted :
    Path.id ["raw.old"] ≠ Path.id ["raw", "old"] ∧
      (Path.id ["raw.old"] ++ ".").toList <+: (Path.id ["raw.old", "trips"]).toList ∧
      ¬ (Path.id ["raw"] ++ ".").toList <+: (Path.id ["raw.old", "trips"]).toList := by
  obtain ⟨hinj, hbelow, -⟩ := id_unambiguous
  refine ⟨fun h => absurd (hinj _ _ h) (by decide), ?_, ?_⟩
  · exact (hbelow _ _ (by decide)).2 (by decide)
  · exact fun h => absurd ((hbelow _ _ (by decide)).1 h) (by decide)

end Path

end CatalogBrowser
