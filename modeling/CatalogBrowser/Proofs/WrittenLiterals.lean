import CatalogBrowser.Json.Value
import CatalogBrowser.Json.StringLiteral
import CatalogBrowser.Json.NumberLiteral
import Mathlib.Data.List.Basic

/-!
# Reading what is written: strings and numbers

What a reader does with the front of a text is said by `Json.Reader.Takes`:
from this text it reads this and leaves that, wherever the text stands.
Places in the text are only there for faults, so they are not mentioned.
Readers in a row take one piece of the text after the other (`Takes.bind`).

A written string is taken up to its closing quote, whatever stands behind it:
each character is written as something the reader knows the end of. A written
number has no end of its own. It is taken where no character follows that
could belong to a number (`Json.StopsNumber`), as is the case in a written value.
-/

namespace CatalogBrowser

namespace Json

namespace Reader

variable {α β : Type} {cs cs' rest : List Char} {a : α} {b : β}

/-! ## What readers take -/

/-- **A reader takes the front of a text**: from `cs` it reads `a`, and leaves
`rest`. -/
def Takes (read : Reader α) (cs : List Char) (a : α) (rest : List Char) : Prop :=
  ∀ p, ∃ q, read ⟨cs, p⟩ = .ok (a, ⟨rest, q⟩)

theorem Takes.pure (a : α) (cs : List Char) : Takes (Pure.pure a) cs a cs := fun p => ⟨p, rfl⟩

/-- **Readers in a row** take one piece after the other. A reader of several parts is
followed along what was written, part by part. -/
theorem Takes.bind {read : Reader α} {next : α → Reader β} (h : Takes read cs a cs')
    (hnext : Takes (next a) cs' b rest) : Takes (read >>= next) cs b rest := by
  intro p
  obtain ⟨q, hq⟩ := h p
  obtain ⟨q', hq'⟩ := hnext q
  refine ⟨q', ?_⟩
  show (read ⟨cs, p⟩ >>= fun r => next r.1 r.2) = _
  rw [hq]
  exact hq'

/-- Looking at the next character does not take it. -/
theorem takes_peek? (cs : List Char) : Takes peek? cs cs.head? cs := fun p => ⟨p, rfl⟩

/-- Going on takes one character. The position moves with it, and may be anywhere. -/
theorem takes_advance (c : Char) (cs : List Char) : Takes advance (c :: cs) () cs :=
  fun p => ⟨p.past c, rfl⟩

/-- **A run of characters is taken up to the first one that does not belong to it**, or to
the end. -/
theorem takes_takeWhile {p : Char → Bool} {front : List Char} (hfront : ∀ c ∈ front, p c)
    (hrest : ∀ c ∈ rest.head?, p c = false) : Takes (takeWhile p) (front ++ rest) front rest := by
  have hstop : rest.takeWhile p = [] ∧ rest.dropWhile p = rest := by
    cases rest with
    | nil => exact ⟨rfl, rfl⟩
    | cons c cs => simp [hrest c rfl]
  intro q
  refine ⟨q.pastAll front, ?_⟩
  show Except.ok (Cursor.span _ p) = _
  rw [Cursor.span, List.takeWhile_append_of_pos hfront, List.dropWhile_append_of_pos hfront,
    hstop.1, hstop.2, List.append_nil]

end Reader

/-! ## Strings -/

/-- A control character is written by two digits behind two zeros, and its number is read
from them. There are only 32 of them, so they are tried out. -/
theorem hexUnit?_hexLetter {n : Nat} (h : n < 32) :
    hexUnit? '0' '0' (hexLetter (n / 16)) (hexLetter (n % 16)) = some n := by
  revert n
  decide

/-- A control character is read from its number. -/
theorem scanString_control {c : Char} (h : c < ' ') (p : Position) (cs : List Char) :
    ∃ q, scanString p ('\\' :: 'u' :: '0' :: '0' :: hexLetter (c.toNat / 16)
        :: hexLetter (c.toNat % 16) :: cs)
      = (scanString q cs).map (consChar c) := by
  have hc : c.toNat < 32 := h
  have hlead : isLeadingSurrogate c.toNat = false := by
    simp [isLeadingSurrogate]
    omega
  have htrail : isTrailingSurrogate c.toNat = false := by
    simp [isTrailingSurrogate]
    omega
  rw [scanString.eq_def]
  simp only [hexUnit?_hexLetter hc, hlead, htrail, Char.ofNat_toNat]
  exact ⟨_, rfl⟩

/-- Any character that needs no escaping is read as itself. -/
theorem scanString_plain {c : Char} (hquote : c ≠ '"') (hback : c ≠ '\\') (hc : ¬ c < ' ')
    (p : Position) (cs : List Char) :
    scanString p (c :: cs) = (scanString (p.past c) cs).map (consChar c) := by
  rw [scanString.eq_def]
  split
  case h_6 =>
    next heq =>
    obtain ⟨rfl, rfl⟩ := List.cons.inj heq
    exact if_neg hc
  all_goals simp_all

/-- **A written character is read as that character**, in each of the ways in which one is
written. -/
theorem exists_scanString_escapedChar (p : Position) (c : Char) (cs : List Char) :
    ∃ q, scanString p (escapedChar c ++ cs) = (scanString q cs).map (consChar c) := by
  unfold escapedChar
  split_ifs with hquote hback h h h h h hc
  iterate 7
    · subst c
      exact ⟨_, rfl⟩
  · exact scanString_control hc p cs
  · exact ⟨_, scanString_plain hquote hback hc p cs⟩

/-- **A string is read character by character**, up to the quote that closes it. Where it
ends depends on how it is written, so the position is only said to exist. -/
theorem exists_scanString_flatMap (p : Position) (cs rest : List Char) :
    ∃ q, scanString p (cs.flatMap escapedChar ++ '"' :: rest) = .ok (cs, ⟨rest, q⟩) := by
  induction cs generalizing p with
  | nil => exact ⟨p.past '"', rfl⟩
  | cons c cs ih =>
    obtain ⟨p', hc⟩ := exists_scanString_escapedChar p c (cs.flatMap escapedChar ++ '"' :: rest)
    obtain ⟨q, hcs⟩ := ih p'
    refine ⟨q, ?_⟩
    rw [List.flatMap_cons, List.append_assoc, hc, hcs]
    rfl

/-- A string is written between quotes. -/
theorem toList_writeString (s : String) :
    (writeString s).toList = '"' :: (s.toList.flatMap escapedChar ++ ['"']) := by
  simp [writeString]

/-- **A written string is taken whole**, whatever follows. Its closing quote is the first
one that is not escaped. -/
theorem Reader.takes_stringLiteral (s : String) (rest : List Char) :
    Takes stringLiteral ((writeString s).toList ++ rest) s rest := by
  intro p
  obtain ⟨q, hq⟩ := exists_scanString_flatMap (p.past '"') s.toList rest
  refine ⟨q, ?_⟩
  rw [toList_writeString, List.cons_append, List.append_assoc, List.singleton_append]
  show (scanString (p.past '"') (s.toList.flatMap escapedChar ++ '"' :: rest)).map _ = _
  rw [hq]
  exact congrArg (fun s => Except.ok (s, _)) String.ofList_toList

/-! ## Numbers -/

/-- **A text that does not go on with a number**: it is at its end, or begins with a
character that stands in no number. -/
def StopsNumber (rest : List Char) : Prop :=
  ∀ c ∈ rest.head?, isDigit c = false ∧ c ≠ '.' ∧ c ≠ 'e' ∧ c ≠ 'E'

/-- Digits are absorbed as long as the number stays within the limit. Past the limit they
would only be counted, and the number rounded. -/
theorem absorbDigits_eq {limit n : Nat} {cs : List Char}
    (h : Nat.ofDigitChars 10 cs n ≤ limit) :
    absorbDigits limit n cs = (Nat.ofDigitChars 10 cs n, 0) := by
  induction cs generalizing n with
  | nil => rfl
  | cons c cs ih =>
    have hstep : n * 10 + digitValue c = 10 * n + (c.toNat - '0'.toNat) := by
      rw [digitValue, Nat.mul_comm]
    rw [Nat.ofDigitChars_cons, ← hstep] at h
    have hle : n * 10 + digitValue c ≤ limit := by
      rw [Nat.ofDigitChars_eq_ofDigitChars_zero] at h
      calc n * 10 + digitValue c
          ≤ 10 ^ cs.length * (n * 10 + digitValue c) :=
            Nat.le_mul_of_pos_left _ (Nat.pow_pos (by decide))
        _ ≤ 10 ^ cs.length * (n * 10 + digitValue c) + Nat.ofDigitChars 10 cs 0 :=
            Nat.le_add_right _ _
        _ ≤ limit := h
    rw [absorbDigits, if_neg (Nat.not_lt.2 hle), ih h, Nat.ofDigitChars_cons, hstep]

/-- Only zero is written with a leading zero. -/
theorem head_toDigits_ne {n : Nat} (h : 0 < n) : (Nat.toDigits 10 n).head? ≠ some '0' := by
  induction n using Nat.strongRecOn with
  | ind n ih =>
    rw [Nat.toDigits_eq_if (by decide)]
    split
    · simpa using Nat.pos_iff_ne_zero.1 h
    · next hn =>
      have hdiv : 0 < n / 10 := Nat.div_pos (Nat.le_of_not_lt hn) (by decide)
      rw [List.head?_append_of_ne_nil _ Nat.toDigits_ne_nil]
      exact ih (n / 10) (Nat.div_lt_self h (by decide)) hdiv

/-- **A number is written in digits**, and a zero in front is the only one. -/
theorem exists_toDigits_cons (n : Nat) :
    ∃ c cs, Nat.toDigits 10 n = c :: cs ∧ (∀ d ∈ c :: cs, isDigit d) ∧ (c = '0' → cs = []) := by
  obtain ⟨c, cs, hcs⟩ := List.exists_cons_of_ne_nil (Nat.toDigits_ne_nil (n := n) (b := 10))
  refine ⟨c, cs, hcs, fun d hd => ?_, ?_⟩
  · exact Nat.isDigit_of_mem_toDigits (by decide) (Nat.le_refl 10) (hcs ▸ hd)
  · rintro rfl
    rcases Nat.eq_zero_or_pos n with rfl | hpos
    · exact (List.cons.inj hcs).2.symm
    · exact absurd (congrArg List.head? hcs) (head_toDigits_ne hpos)

namespace Reader

/-- Where no number goes on, neither a fraction nor an exponent is read, so the digits are
the whole number. -/
theorem takes_of_stopsNumber {point exponent other : Reader α} (hstop : StopsNumber cs)
    (h : Takes other cs a rest) :
    Takes (do
      match ← peek? with
      | some '.' => point
      | some 'e' | some 'E' => exponent
      | _ => other) cs a rest := by
  refine .bind (takes_peek? cs) ?_
  cases cs with
  | nil => exact h
  | cons c cs =>
    obtain ⟨-, hpoint, he, hE⟩ := hstop c rfl
    rw [List.head?_cons]
    split
    · next heq => exact absurd (Option.some.inj heq) hpoint
    · next heq => exact absurd (Option.some.inj heq) he
    · next heq => exact absurd (Option.some.inj heq) hE
    · exact h

/-- **Digits that stand for a number are taken as that number**, if it fits. -/
theorem takes_unsignedNumber {n : Nat} (hn : n ≤ significandLimit) (isPositive : Bool)
    (hrest : StopsNumber rest) :
    Takes (unsignedNumber isPositive) (Nat.toDigits 10 n ++ rest) (whole isPositive n) rest := by
  obtain ⟨c, cs, hcs, hdigits, hnil⟩ := exists_toDigits_cons n
  have hvalue : Nat.ofDigitChars 10 cs (digitValue c) = n := by
    have h := Nat.ofDigitChars_ten_toDigits (n := n)
    rwa [hcs, Nat.ofDigitChars_cons, Nat.mul_zero, Nat.zero_add] at h
  have habsorb : absorbDigits significandLimit (digitValue c) cs = (n, 0) := by
    rw [absorbDigits_eq (by rwa [hvalue]), hvalue]
  rw [hcs, List.cons_append]
  unfold unsignedNumber
  refine Takes.bind (takes_peek? _) ?_
  simp only [List.head?_cons, hdigits c List.mem_cons_self, Bool.not_true, Bool.false_eq_true,
    if_false]
  refine Takes.bind (takes_advance c _) ?_
  split
  · -- A zero is only taken alone, and nothing follows it here.
    next hzero =>
    obtain rfl := hnil hzero
    refine .bind (takes_peek? _) ?_
    rw [List.nil_append]
    cases rest with
    | nil =>
      refine .bind (.pure [] _) ?_
      simp only [habsorb]
      exact takes_of_stopsNumber hrest (.pure _ _)
    | cons d rest =>
      simp only [List.head?_cons, (hrest d rfl).1, Bool.false_eq_true, if_false]
      refine .bind (.pure [] _) ?_
      simp only [habsorb]
      exact takes_of_stopsNumber hrest (.pure _ _)
  · refine .bind (takes_takeWhile (fun d hd => hdigits d (List.mem_cons_of_mem c hd))
      fun d hd => (hrest d hd).1) ?_
    simp only [habsorb]
    exact takes_of_stopsNumber hrest (.pure _ _)

end Reader

/-- **A number whose writing is read as the number itself**, wherever no number goes
on behind it. -/
structure Number.Legible (n : Number) : Prop where
  /-- It begins with a sign or a digit. -/
  begins : ∃ c cs, n.write.toList = c :: cs ∧ (c = '-' ∨ isDigit c)
  /-- It is taken as the number. -/
  takes : ∀ rest, StopsNumber rest → Reader.Takes Reader.number (n.write.toList ++ rest) n rest

/-- **Numbers up to the largest significand are legible.** Of what is written only the depth
of a row is a number, and that is far below. -/
theorem Number.legible_natural {n : Nat} (hn : n ≤ significandLimit) : (natural n).Legible := by
  have hwrite : (natural n).write.toList = Nat.toDigits 10 n := Nat.toList_repr
  obtain ⟨c, cs, hcs, hdigits, -⟩ := exists_toDigits_cons n
  have hc : isDigit c := hdigits c List.mem_cons_self
  refine ⟨⟨c, cs, hwrite.trans hcs, .inr hc⟩, fun rest hrest => ?_⟩
  rw [hwrite]
  refine .bind (Reader.takes_peek? _) ?_
  rw [hcs, List.cons_append, List.head?_cons, ← List.cons_append, ← hcs]
  split
  · next heq =>
    obtain rfl : c = '-' := Option.some.inj heq
    exact absurd hc (by decide)
  · exact Reader.takes_unsignedNumber hn true hrest

end Json

end CatalogBrowser
