import CatalogBrowser.Json.Document
import CatalogBrowser.Proofs.WrittenLiterals

/-!
# Reading what is written: values

A value in writing is read as that value (`Json.parse_write`). What can be
written is more than what can be read again: lists and objects may be nested
too deeply, and a number too large is rounded. So the result is about values
that fit (`Json.Fits`), which says how deep a value may be nested and that its
numbers are legible.

The loops over items and over members are followed in the same way. What is
still to be read is written with a comma before each piece, or before each but
the first (`Json.joined`), and the loop has as much to do as there are pieces.
-/

namespace CatalogBrowser

namespace Json

/-- **A value that can be written and read again**, with `depth` levels of nesting
to go. -/
inductive Fits : Nat → Json → Prop where
  | null {depth : Nat} : Fits depth null
  | boolean {depth : Nat} (b : Bool) : Fits depth (boolean b)
  | number {depth : Nat} {n : Number} (h : n.Legible) : Fits depth (number n)
  | string {depth : Nat} (s : String) : Fits depth (string s)
  | list {depth : Nat} {items : List Json} (h : ∀ j ∈ items, Fits depth j) :
      Fits (depth + 1) (list items)
  | object {depth : Nat} {members : List (String × Json)} (h : ∀ m ∈ members, Fits depth m.2) :
      Fits (depth + 1) (object members)

/-! ## Pieces and commas -/

/-- The comma before a piece that is not the first. -/
def comma (isFirst : Bool) : List Char := if isFirst then [] else [',']

/-- **Pieces in a row**, a comma between any two of them, and one before the first if
others were there before. -/
def joined : Bool → List String → List Char
  | _, [] => []
  | isFirst, piece :: pieces => comma isFirst ++ (piece.toList ++ joined false pieces)

/-- What is written with commas between the pieces is what the loops read piece by piece.
The loops know whether a piece is the first one, and `intercalate` does not. -/
theorem toList_intercalate (pieces : List String) :
    (",".intercalate pieces).toList = joined true pieces := by
  rw [String.toList_intercalate]
  cases pieces with
  | nil => rfl
  | cons piece pieces =>
    induction pieces generalizing piece with
    | nil => simp [joined, comma]
    | cons next pieces ih =>
      have ih' := ih next
      rw [List.map_cons] at ih'
      rw [List.map_cons, List.map_cons, List.intercalate_cons_cons, ih', List.append_assoc]
      rfl

/-- Whatever bracket closes a row of pieces, no number goes on there. A number has no end
of its own, so this is what keeps it from running into what is next. -/
theorem stopsNumber_joined (pieces : List String) {close : Char}
    (h : close = ']' ∨ close = '\x7d') (rest : List Char) :
    StopsNumber (joined false pieces ++ close :: rest) := by
  cases pieces with
  | nil =>
    rintro c ⟨⟩
    rcases h with rfl | rfl <;> decide
  | cons piece pieces =>
    rintro c ⟨⟩
    decide

/-- Each piece takes one character at least, and that is its comma. What a piece itself is
written as may be empty for all this says. -/
theorem length_le_length_joined (pieces : List String) :
    pieces.length ≤ (joined false pieces).length := by
  induction pieces with
  | nil => exact Nat.zero_le _
  | cons piece pieces ih =>
    rw [joined, comma, if_neg Bool.false_ne_true, List.singleton_append, List.length_cons,
      List.length_cons, List.length_append]
    omega

/-- The loops are given enough steps: each piece behind the first has its comma, and
the closing bracket stands for the first. -/
theorem length_lt_length_joined (pieces : List String) (close : Char) (rest : List Char) :
    pieces.length < (joined true pieces ++ close :: rest).length + 1 := by
  cases pieces with
  | nil => exact Nat.succ_pos _
  | cons piece pieces =>
    have h := length_le_length_joined pieces
    rw [joined, List.length_append, List.length_append, List.length_append, List.length_cons,
      List.length_cons]
    omega

/-- Items are written one by one. Writing is one recursion over values, items and members,
and this takes the items out of it. -/
theorem writeItems_eq_map (items : List Json) : writeItems items = items.map write := by
  induction items with
  | nil => rfl
  | cons j items ih => rw [writeItems, ih, List.map_cons]

/-- A member in writing. -/
def writeMember (member : String × Json) : String :=
  writeString member.1 ++ ":" ++ member.2.write

/-- The same for the members of an object. -/
theorem writeMembers_eq_map (members : List (String × Json)) :
    writeMembers members = members.map writeMember := by
  induction members with
  | nil => rfl
  | cons member members ih =>
    obtain ⟨key, j⟩ := member
    rw [writeMembers, ih, List.map_cons, writeMember]

namespace Reader

variable {α : Type} {cs rest : List Char} {a : α}

/-- There are no blanks in what is written, so the readers that look past blanks find the
next character where they are. -/
theorem takes_peekPastBlanks? {c : Char} (h : isBlank c = false) (cs : List Char) :
    Takes peekPastBlanks? (c :: cs) (some c) (c :: cs) := by
  have hnone : Takes (takeWhile isBlank) ([] ++ c :: cs) [] (c :: cs) := by
    refine takes_takeWhile (fun _ hc => absurd hc List.not_mem_nil) ?_
    rintro c ⟨⟩
    exact h
  exact .bind hnone (takes_peek? _)

/-- The same where there has to be a next character. -/
theorem takes_peekValue {c : Char} (h : isBlank c = false) (cs : List Char) :
    Takes peekValue (c :: cs) c (c :: cs) :=
  .bind (takes_peekPastBlanks? h cs) (.pure c _)

/-- The steps of a loop are counted by the characters that are left, and counting takes
none of them. -/
theorem takes_bound (cs : List Char) : Takes bound cs (cs.length + 1) cs := fun p => ⟨p, rfl⟩

/-- The words for truth values and for nothing are read letter by letter. -/
theorem takes_word (letters rest : List Char) :
    Takes (word letters) (letters ++ rest) () rest := by
  induction letters with
  | nil => exact .pure () rest
  | cons c letters ih =>
    refine .bind (takes_peek? _) ?_
    show Takes (if c = c then _ else _) _ _ _
    rw [if_pos rfl]
    exact .bind (takes_advance c _) ih

/-- **What is written for a value is read as the value** wherever no number goes on
behind it, and it does not look like the end of a list. -/
structure Reads (read : Reader α) (written : List Char) (a : α) : Prop where
  begins : ∃ c cs, written = c :: cs ∧ isBlank c = false ∧ c ≠ ']'
  takes : ∀ rest, StopsNumber rest → Takes read (written ++ rest) a rest

/-! ## Lists -/

/-- At the closing bracket there are no more items, and the bracket is left for the list to
take. -/
theorem takes_moreItems_end (isFirst : Bool) (rest : List Char) :
    Takes (moreItems isFirst) (']' :: rest) false (']' :: rest) :=
  .bind (takes_peekPastBlanks? rfl rest) (.pure false _)

/-- Otherwise there is one more item, behind its comma if it is not the first. What an item
begins with is neither a blank nor the closing bracket. -/
theorem takes_moreItems {c : Char} (hblank : isBlank c = false) (hclose : c ≠ ']')
    (isFirst : Bool) (cs : List Char) :
    Takes (moreItems isFirst) (comma isFirst ++ c :: cs) true (c :: cs) := by
  cases isFirst with
  | true =>
    refine .bind (takes_peekPastBlanks? hblank cs) ?_
    split
    · next heq => exact nomatch heq
    · next heq => exact absurd (Option.some.inj heq) hclose
    · exact .pure true _
  | false =>
    refine .bind (takes_peekPastBlanks? rfl _) (.bind (takes_advance ',' _)
      (.bind (takes_peekPastBlanks? hblank cs) ?_))
    split
    · next heq => exact nomatch heq
    · next heq => exact absurd (Option.some.inj heq) hclose
    · exact .pure true _

/-- The list takes its bracket. -/
theorem takes_closeList (rest : List Char) : Takes closeList (']' :: rest) () rest :=
  .bind (takes_peekPastBlanks? rfl rest) (takes_advance ']' rest)

/-- **The loop over the items of a list** reads one after the other. The induction is on
the items, with the steps that are left and the comma before the next item going along. -/
theorem takes_items {item : Reader Json} {js : List Json}
    (h : ∀ j ∈ js, Reads item j.write.toList j) {fuel : Nat} (hfuel : js.length < fuel)
    (isFirst : Bool) (rest : List Char) :
    Takes (items item fuel isFirst) (joined isFirst (js.map write) ++ ']' :: rest) js
      (']' :: rest) := by
  induction js generalizing fuel isFirst with
  | nil =>
    obtain _ | fuel := fuel
    · exact absurd hfuel (Nat.not_lt_zero _)
    exact .bind (takes_moreItems_end isFirst rest) (.pure [] _)
  | cons j js ih =>
    obtain _ | fuel := fuel
    · exact absurd hfuel (Nat.not_lt_zero _)
    obtain ⟨⟨c, cs, hcs, hblank, hclose⟩, hj⟩ := h j List.mem_cons_self
    rw [List.map_cons, joined, List.append_assoc, List.append_assoc]
    have hmore : Takes (moreItems isFirst)
        (comma isFirst ++ (j.write.toList ++ (joined false (js.map write) ++ ']' :: rest))) true
        (j.write.toList ++ (joined false (js.map write) ++ ']' :: rest)) := by
      rw [hcs]
      exact takes_moreItems hblank hclose isFirst _
    refine .bind hmore (.bind (hj _ (stopsNumber_joined _ (.inl rfl) rest)) ?_)
    have hrest := ih (fun j hj => h j (List.mem_cons_of_mem _ hj)) (Nat.lt_of_succ_lt_succ hfuel)
      false
    exact .bind hrest (.pure _ _)

/-- **A list is taken up to its closing bracket.** The loop is given as many steps as there
are characters, and that is enough. -/
theorem takes_list {item : Reader Json} {js : List Json}
    (h : ∀ j ∈ js, Reads item j.write.toList j) (rest : List Char) :
    Takes (list item) (joined true (js.map write) ++ ']' :: rest) js rest := by
  have hfuel := length_lt_length_joined (js.map write) ']' rest
  rw [List.length_map] at hfuel
  exact .bind (takes_bound _) (.bind (takes_items h hfuel true rest)
    (.bind (takes_closeList rest) (.pure js _)))

/-! ## Objects -/

/-- At the closing brace there are no more members, and the brace stays. -/
theorem takes_moreMembers_end (isFirst : Bool) (rest : List Char) :
    Takes (moreMembers isFirst) ('\x7d' :: rest) false ('\x7d' :: rest) :=
  .bind (takes_peekPastBlanks? rfl rest) (.pure false _)

/-- One more member begins with the quote of its key, so it is told from the end by one
character. -/
theorem takes_moreMembers (isFirst : Bool) (cs : List Char) :
    Takes (moreMembers isFirst) (comma isFirst ++ '"' :: cs) true ('"' :: cs) := by
  cases isFirst with
  | true => exact .bind (takes_peekPastBlanks? rfl cs) (.pure true _)
  | false =>
    exact .bind (takes_peekPastBlanks? rfl _) (.bind (takes_advance ',' _)
      (.bind (takes_peekPastBlanks? rfl cs) (.pure true _)))

/-- Between a key and its value there is a colon, and nothing else. -/
theorem takes_colon (rest : List Char) : Takes colon (':' :: rest) () rest :=
  .bind (takes_peekPastBlanks? rfl rest) (takes_advance ':' rest)

/-- The object takes its brace. -/
theorem takes_closeObject (rest : List Char) : Takes closeObject ('\x7d' :: rest) () rest :=
  .bind (takes_peekPastBlanks? rfl rest) (takes_advance '\x7d' rest)

/-- Reads one more member in front of those read before. -/
def pushMember (read : Reader Json) (key : String) (known : List (String × Json)) :
    Reader (List (String × Json)) := do
  colon
  let v ← read
  pure ((key, v) :: known)

/-- **The loop over the members of an object** reads one after the other, in front
of what is known. -/
theorem takes_members {read : Reader Json} {ms : List (String × Json)}
    (h : ∀ m ∈ ms, Reads read m.2.write.toList m.2) {fuel : Nat} (hfuel : ms.length < fuel)
    (isFirst : Bool) (known : List (String × Json)) (rest : List Char) :
    Takes (members (pushMember read) fuel isFirst known)
      (joined isFirst (ms.map writeMember) ++ '\x7d' :: rest) (ms.reverse ++ known)
      ('\x7d' :: rest) := by
  induction ms generalizing fuel isFirst known with
  | nil =>
    obtain _ | fuel := fuel
    · exact absurd hfuel (Nat.not_lt_zero _)
    exact .bind (takes_moreMembers_end isFirst rest) (.pure known _)
  | cons m ms ih =>
    obtain _ | fuel := fuel
    · exact absurd hfuel (Nat.not_lt_zero _)
    obtain ⟨key, j⟩ := m
    have hwritten (cs : List Char) :
        (writeMember (key, j)).toList ++ cs
          = (writeString key).toList ++ ':' :: (j.write.toList ++ cs) := by
      simp [writeMember]
    have hmore (cs : List Char) :
        Takes (moreMembers isFirst) (comma isFirst ++ ((writeString key).toList ++ cs)) true
          ((writeString key).toList ++ cs) := by
      rw [toList_writeString]
      exact takes_moreMembers isFirst _
    rw [List.map_cons, joined, List.append_assoc, List.append_assoc, hwritten]
    have hj := (h _ List.mem_cons_self).takes _
      (stopsNumber_joined (ms.map writeMember) (.inr rfl) rest)
    have hpush : Takes (pushMember read key known) _ _ _ :=
      .bind (takes_colon _) (.bind hj (.pure _ _))
    -- The others are read in front of this one, so the last member comes first.
    have hrest := ih (fun m hm => h m (List.mem_cons_of_mem _ hm))
      (Nat.lt_of_succ_lt_succ hfuel) false ((key, j) :: known)
    rw [List.reverse_cons, List.append_assoc]
    exact .bind (hmore _) (.bind (takes_stringLiteral key _) (.bind hpush hrest))

/-- **The members of an object are taken up to its closing brace**, which stays. They come
out in reverse, since each was put in front of those before it. -/
theorem takes_object {read : Reader Json} {ms : List (String × Json)}
    (h : ∀ m ∈ ms, Reads read m.2.write.toList m.2) (rest : List Char) :
    Takes (object (pushMember read) []) (joined true (ms.map writeMember) ++ '\x7d' :: rest)
      ms.reverse ('\x7d' :: rest) := by
  have hfuel := length_lt_length_joined (ms.map writeMember) '\x7d' rest
  rw [List.length_map] at hfuel
  have hms := takes_members h hfuel true [] rest
  rw [List.append_nil] at hms
  exact .bind (takes_bound _) hms

/-! ## Values -/

/-- A number begins with no blank and no bracket. The loop over items asks for this of
every item, and numbers are the only ones that do not begin with a sign of their own. -/
theorem isBlank_of_begins_number {c : Char} (h : c = '-' ∨ isDigit c) :
    isBlank c = false ∧ c ≠ ']' := by
  constructor
  · by_contra hblank
    simp only [isBlank, Bool.not_eq_false, Bool.or_eq_true, decide_eq_true_eq] at hblank
    rcases hblank with ((rfl | rfl) | rfl) | rfl
    all_goals exact absurd h (by decide)
  · rintro rfl
    exact absurd h (by decide)

/-- A number is told from other values by its first character, which is a digit or a minus
sign. -/
theorem reads_number {n : Number} (h : n.Legible) (depth : Nat) :
    Reads (value depth) n.write.toList (.number n) := by
  obtain ⟨⟨c, cs, hcs, hc⟩, htakes⟩ := h
  obtain ⟨hblank, hclose⟩ := isBlank_of_begins_number hc
  refine ⟨⟨c, cs, hcs, hblank, hclose⟩, fun rest hrest => ?_⟩
  have hn := htakes rest hrest
  rw [hcs] at hn ⊢
  unfold value
  refine .bind (takes_peekValue hblank _) ?_
  split
  case h_7 =>
    rw [if_pos (by simpa using hc)]
    exact .bind hn (.pure _ _)
  all_goals exact absurd hc (by decide)

/-- **A value that fits is read as what it was when it was written.** The induction is on
its fitting, so that the levels of nesting that are left go down with it. -/
theorem reads_write {depth : Nat} {v : Json} (h : v.Fits depth) :
    Reads (value depth) v.write.toList v := by
  induction h with
  | null =>
    refine ⟨⟨'n', _, rfl, rfl, by decide⟩, fun rest _ => ?_⟩
    unfold value
    exact .bind (takes_peekValue rfl _) (.bind (takes_advance 'n' _)
      (.bind (takes_word _ _) (.pure _ _)))
  | boolean b =>
    cases b with
    | false =>
      refine ⟨⟨'f', _, rfl, rfl, by decide⟩, fun rest _ => ?_⟩
      unfold value
      exact .bind (takes_peekValue rfl _) (.bind (takes_advance 'f' _)
        (.bind (takes_word _ _) (.pure _ _)))
    | true =>
      refine ⟨⟨'t', _, rfl, rfl, by decide⟩, fun rest _ => ?_⟩
      unfold value
      exact .bind (takes_peekValue rfl _) (.bind (takes_advance 't' _)
        (.bind (takes_word _ _) (.pure _ _)))
  | number h => exact reads_number h _
  | string s =>
    refine ⟨⟨'"', _, toList_writeString s, rfl, by decide⟩, fun rest _ => ?_⟩
    have hs := takes_stringLiteral s rest
    rw [toList_writeString] at hs
    rw [write, toList_writeString]
    unfold value
    exact .bind (takes_peekValue rfl _) (.bind hs (.pure _ _))
  | @list depth items h ih =>
    have hwrite : (Json.list items).write.toList
        = '[' :: (joined true (items.map write) ++ [']']) := by
      rw [write, writeItems_eq_map, String.toList_append, String.toList_append, toList_intercalate]
      rfl
    refine ⟨⟨'[', _, hwrite, rfl, by decide⟩, fun rest _ => ?_⟩
    rw [hwrite, List.cons_append, List.append_assoc]
    unfold value
    exact .bind (takes_peekValue rfl _) (.bind (takes_advance '[' _)
      (.bind (takes_list ih rest) (.pure _ _)))
  | @object depth ms h ih =>
    have hwrite : (Json.object ms).write.toList
        = '\x7b' :: (joined true (ms.map writeMember) ++ ['\x7d']) := by
      rw [write, writeMembers_eq_map, String.toList_append, String.toList_append,
        toList_intercalate]
      rfl
    refine ⟨⟨'\x7b', _, hwrite, rfl, by decide⟩, fun rest _ => ?_⟩
    rw [hwrite, List.cons_append, List.append_assoc]
    have hms := takes_object ih rest
    have hlast :
        Takes (pure (Json.object ms.reverse.reverse) : Reader Json) rest (.object ms) rest := by
      rw [List.reverse_reverse]
      exact .pure _ _
    unfold value
    exact .bind (takes_peekValue rfl _) (.bind (takes_advance '\x7b' _)
      (.bind hms (.bind (takes_closeObject rest) hlast)))

end Reader

/-- **Reading undoes writing.** A text is a value and nothing behind it, and at the end of
a text no number goes on. -/
theorem parse_write {v : Json} (h : v.Fits depthLimit) : parse v.write = .ok v := by
  have hv := (Reader.reads_write h).takes [] (fun c hc => nomatch hc)
  obtain ⟨q, hq⟩ := hv .start
  rw [List.append_nil] at hq
  unfold parse Reader.run Cursor.ofString StateT.run
  rw [hq]
  rfl

end Json

end CatalogBrowser
